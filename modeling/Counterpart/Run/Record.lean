import Counterpart.Cell.Basic
import Counterpart.Token.Basic

/-!
# Running hosts and counterparts

A running host is a record of values and a running counterpart is a record of cells, both under
the names of their fields and in the order of declaration, which is also the order in which their
contents are dropped.
-/

namespace Counterpart

open Run

/-- Values under names. -/
abbrev ValueRecord (V : Type) := List (Ident × V)

/-- Cells under names. -/
abbrev CellRecord (V : Type) := List (Ident × Cell V)

variable {V α : Type}

namespace ValueRecord

/-- The values, in order. -/
def contents (record : ValueRecord V) : List V := record.map (·.2)

/-- The value under a name. -/
def value? (name : Ident) (record : ValueRecord V) : Option V :=
  (record.find? fun entry => entry.1 = name).map (·.2)

/-- The record without the value under a name. -/
def without (name : Ident) (record : ValueRecord V) : ValueRecord V :=
  record.eraseP fun entry => entry.1 = name

end ValueRecord

namespace CellRecord

/-- The values that the cells own, in order. -/
def contents (record : CellRecord V) : List V := record.filterMap fun entry => entry.2.value?

/-- The cell under a name. -/
def cell? (name : Ident) (record : CellRecord V) : Option (Cell V) :=
  (record.find? fun entry => entry.1 = name).map (·.2)

/-- The record with another cell under a name. -/
def put (name : Ident) (cell : Cell V) : CellRecord V → CellRecord V
  | [] => []
  | entry :: rest => if entry.1 = name then (name, cell) :: rest else entry :: put name cell rest

/-- Work on the cell under a name; without such a cell the code has no meaning. -/
def onCell (name : Ident) (action : Action V (Cell V) α) : Action V (CellRecord V) α :=
  fun record =>
    match cell? name record with
    | none => Action.stuck record
    | some cell =>
      let ran := action cell
      ran.withState (put name ran.state record)

/-- The value that the cell under a name owns. -/
def value? (name : Ident) (record : CellRecord V) : Option V :=
  (cell? name record).bind Cell.value?

/-- The record whose first cells were emptied. -/
def emptied : (count : Nat) → CellRecord V → CellRecord V
  | 0, record => record
  | _ + 1, [] => []
  | count + 1, entry :: rest => (entry.1, entry.2.emptied) :: emptied count rest

/-- A record of cells under the given names, each with a mark that tells the truth. -/
structure WellFormed (names : List Ident) (record : CellRecord V) : Prop where
  names_eq : record.map (·.1) = names
  cells : ∀ entry ∈ record, entry.2.WellFormed

/-- Putting a cell back changes no other cell. -/
theorem cell?_put_of_ne {name other : Ident} (h : other ≠ name) (cell : Cell V)
    (record : CellRecord V) : cell? other (put name cell record) = cell? other record := by
  induction record with
  | nil => rfl
  | cons entry rest ih =>
    unfold put
    split
    · next hname => simp [cell?, hname, Ne.symm h]
    · by_cases hother : entry.1 = other
      · simp [cell?, hother]
      · simpa [cell?, List.find?_cons, hother] using ih

/-- The cell that was put under a name is found there, if there was one before. -/
theorem cell?_put_self {name : Ident} {former : Cell V} (cell : Cell V) {record : CellRecord V}
    (h : cell? name record = some former) : cell? name (put name cell record) = some cell := by
  induction record with
  | nil => simp [cell?] at h
  | cons entry rest ih =>
    unfold put
    split
    · simp [cell?]
    · next hname =>
      have hrest : cell? name rest = some former := by simpa [cell?, List.find?_cons, hname] using h
      simpa [cell?, List.find?_cons, hname] using ih hrest

@[simp] theorem contents_nil : contents ([] : CellRecord V) = [] := rfl

@[simp] theorem contents_cons (entry : Ident × Cell V) (rest : CellRecord V) :
    contents (entry :: rest) = entry.2.value?.toList ++ contents rest := by
  unfold contents
  cases h : entry.2.value? <;> simp [h]

@[simp] theorem contents_append (first second : CellRecord V) :
    contents (first ++ second) = contents first ++ contents second := List.filterMap_append ..

theorem value?_cons_self (name : Ident) (cell : Cell V) (rest : CellRecord V) :
    value? name ((name, cell) :: rest) = cell.value? := by
  simp [value?, cell?]

theorem value?_cons_of_ne {name : Ident} {entry : Ident × Cell V} (h : entry.1 ≠ name)
    (rest : CellRecord V) : value? name (entry :: rest) = value? name rest := by
  simp [value?, cell?, h]

/-- Work on a cell goes past a cell under another name. -/
theorem onCell_cons_of_ne {name : Ident} {entry : Ident × Cell V} (h : entry.1 ≠ name)
    (action : Action V (Cell V) α) (rest : CellRecord V) :
    onCell name action (entry :: rest) =
      (onCell name action rest).withState (entry :: (onCell name action rest).state) := by
  have hcell : cell? name (entry :: rest) = cell? name rest := by
    simp [cell?, h]
  simp only [onCell, hcell]
  cases cell? name rest with
  | none => rfl
  | some cell => simp [Ran.withState, put, h]

theorem onCell_cons_self (name : Ident) (cell : Cell V) (action : Action V (Cell V) α)
    (rest : CellRecord V) :
    onCell name action ((name, cell) :: rest) =
      (action cell).withState ((name, (action cell).state) :: rest) := by
  simp [onCell, cell?, put]

/-- Emptied cells hold nothing. -/
theorem contents_emptied (count : Nat) (record : CellRecord V) :
    contents (emptied count record) = contents (record.drop count) := by
  induction record generalizing count with
  | nil => cases count <;> rfl
  | cons entry rest ih =>
    cases count with
    | zero => rfl
    | succ count => simp [emptied, ih]

/-- Taking the value out of the cell behind the emptied ones empties it as well. -/
theorem onCell_take_emptied {names : List Ident} {record : CellRecord V}
    (hrecord : record.WellFormed names) (hnames : names.Nodup) {count : Nat} {name : Ident}
    (hname : names[count]? = some name) :
    onCell name Cell.take (emptied count record) =
      ⟨.finished (value? name record), emptied (count + 1) record, []⟩ := by
  induction record generalizing names count with
  | nil =>
    obtain rfl : names = [] := hrecord.names_eq.symm
    simp at hname
  | cons entry rest ih =>
    obtain ⟨own, cell⟩ := entry
    obtain ⟨others, rfl⟩ : ∃ others, names = own :: others :=
      ⟨rest.map (·.1), by simpa using hrecord.names_eq.symm⟩
    have hcell : cell.WellFormed := hrecord.cells _ List.mem_cons_self
    have hrest : WellFormed others rest :=
      ⟨by simpa using hrecord.names_eq, fun entry h => hrecord.cells entry (List.mem_cons_of_mem _ h)⟩
    rw [List.nodup_cons] at hnames
    cases count with
    | zero =>
      obtain rfl : own = name := by simpa using hname
      rw [emptied, onCell_cons_self, value?_cons_self, Cell.take_of_wellFormed hcell]
      rfl
    | succ count =>
      rw [List.getElem?_cons_succ] at hname
      have hne : own ≠ name := by
        rintro rfl
        exact hnames.1 (List.mem_of_getElem? hname)
      rw [emptied, onCell_cons_of_ne hne, ih hrest hnames.2 hname, value?_cons_of_ne hne]
      rfl

end CellRecord

end Counterpart
