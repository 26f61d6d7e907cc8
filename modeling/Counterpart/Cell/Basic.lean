import Counterpart.Cell.MissingProperty
import Counterpart.Run.Action

/-!
# Cells

A cell holds the value of a property, or none. It is a mark and a holder. The mark tells whether
a value is there; the holder may be without content from the beginning, or may still have the
content that a value had before it was moved out or dropped. The mark is taken down before
anything else happens to the value, so that a panic of its destructor finds a cell without a
value. Reading, moving out or dropping a value that the holder does not own has no meaning.
-/

namespace Counterpart

open Run

/-- What the memory of a cell holds. -/
inductive Holder (V : Type) where
  | uninitialized
  | owned (value : V)
  /-- The content of a value that was moved out or dropped. -/
  | stale (value : V)
deriving DecidableEq, Repr

/-- The value of a property, or the fact that it was never set. -/
structure Cell (V : Type) where
  isSet : Bool
  holder : Holder V
deriving DecidableEq, Repr

/-- What is done to a value that is lent for changes. -/
inductive Edit (V : Type) where
  /-- Change it in place. -/
  | change (change : V → V)
  /-- Put another value in its place, and drop it. -/
  | replace (value : V)

namespace Edit

/-- The values that an edit brings along. -/
def brought {V : Type} : Edit V → List V
  | .change _ => []
  | .replace value => [value]

end Edit

namespace Cell

variable {V : Type}

/-- A cell without a value. -/
def unset : Cell V := ⟨false, .uninitialized⟩

/-- A cell with a value. -/
def ofValue (value : V) : Cell V := ⟨true, .owned value⟩

/-- A cell that has a value if there is one. -/
def ofOption : Option V → Cell V
  | none => unset
  | some value => ofValue value

/-- The value that a cell owns. -/
def value? (cell : Cell V) : Option V :=
  match cell.isSet, cell.holder with
  | true, .owned value => some value
  | _, _ => none

/-- Whether the mark tells the truth about the holder. -/
def WellFormed (cell : Cell V) : Prop :=
  cell.isSet = true ↔ ∃ value, cell.holder = .owned value

/-- Drop the value if there is one. -/
def clear [Destructible V] : Action V (Cell V) Unit := fun cell =>
  if cell.isSet then
    match cell.holder with
    | .owned value => Action.drop [value] ⟨false, .stale value⟩
    | _ => Action.stuck ⟨false, cell.holder⟩
  else Action.finish () cell

/-- Store a value and drop the one before. If that panics, the new value is dropped as well. -/
def set [Destructible V] (value : V) : Action V (Cell V) Unit := fun cell =>
  ((clear cell).unwinding fun _ => [value]).andThen
    (fun _ _ => ⟨.finished (), ofValue value, []⟩) id

/-- The value, if the property with the given name was set. -/
def get (name : String) : Action V (Cell V) (Except MissingProperty V) := fun cell =>
  if cell.isSet then
    match cell.holder with
    | .owned value => Action.finish (.ok value) cell
    | _ => Action.stuck cell
  else Action.finish (.error ⟨name⟩) cell

/-- Change the value in place, if the property with the given name was set; the answer is the
changed value. -/
def modify (name : String) (change : V → V) : Action V (Cell V) (Except MissingProperty V) :=
  fun cell =>
    if cell.isSet then
      match cell.holder with
      | .owned value => Action.finish (.ok (change value)) ⟨true, .owned (change value)⟩
      | _ => Action.stuck cell
    else Action.finish (.error ⟨name⟩) cell

/-- Put another value in the place of the present one and drop that, if the property with the
given name was set. The new value is in place even if dropping panics; if there is no place for it,
it is dropped itself. -/
def overwrite [Destructible V] (name : String) (value : V) :
    Action V (Cell V) (Except MissingProperty V) := fun cell =>
  if cell.isSet then
    match cell.holder with
    | .owned former =>
      (Action.drop [former] (ofValue value)).andThen (fun _ => Action.finish (.ok value)) id
    | _ => Action.stuck cell
  else (Action.drop [value] cell).andThen (fun _ => Action.finish (.error ⟨name⟩)) id

/-- Edit the value, if the property with the given name was set. -/
def edit [Destructible V] (name : String) : Edit V → Action V (Cell V) (Except MissingProperty V)
  | .change change => modify name change
  | .replace value => overwrite name value

/-- Move the value out. -/
def take : Action V (Cell V) (Option V) := fun cell =>
  if cell.isSet then
    match cell.holder with
    | .owned value => Action.finish (some value) ⟨false, .stale value⟩
    | _ => Action.stuck ⟨false, cell.holder⟩
  else Action.finish none cell

/-- Move the value out and give the cell up; whatever the cell still owned would be dropped. -/
def intoInner [Destructible V] : Action V (Cell V) (Option V) := fun cell =>
  (take cell).andThen
    (fun value rest => (clear rest).andThen (fun _ => Action.finish value) id) id

/-- Another cell with a copy of the value. -/
def clone (copy : V → V) : Action V (Cell V) (Cell V) := fun cell =>
  if cell.isSet then
    match cell.holder with
    | .owned value =>
      ⟨.finished (ofValue (copy value)), cell, [.cloned value, .received (copy value)]⟩
    | _ => Action.stuck cell
  else Action.finish unset cell

/-- The cell after its value was moved out. -/
def emptied (cell : Cell V) : Cell V :=
  match cell.value? with
  | some value => ⟨false, .stale value⟩
  | none => cell

@[simp] theorem value?_unset : (unset : Cell V).value? = none := rfl

@[simp] theorem value?_ofValue (value : V) : (ofValue value).value? = some value := rfl

@[simp] theorem value?_stale (value : V) : (⟨false, .stale value⟩ : Cell V).value? = none := rfl

theorem wellFormed_unset : (unset : Cell V).WellFormed := by simp [WellFormed, unset]

theorem wellFormed_ofValue (value : V) : (ofValue value).WellFormed := by
  simp [WellFormed, ofValue]

theorem wellFormed_stale (value : V) : (⟨false, .stale value⟩ : Cell V).WellFormed := by
  simp [WellFormed]

@[simp] theorem value?_ofOption (held : Option V) : (ofOption held).value? = held := by
  cases held <;> rfl

theorem wellFormed_ofOption (held : Option V) : (ofOption held).WellFormed := by
  cases held with
  | none => exact wellFormed_unset
  | some value => exact wellFormed_ofValue value

/-- A cell whose mark tells the truth owns a value and has its mark up, or neither. -/
theorem WellFormed.cases {cell : Cell V} (h : cell.WellFormed) :
    (∃ value, cell = ofValue value) ∨ cell.isSet = false ∧ cell.value? = none := by
  obtain ⟨isSet, holder⟩ := cell
  cases isSet with
  | true =>
    obtain ⟨value, hholder⟩ := h.mp rfl
    exact .inl ⟨value, by simp only at hholder; rw [hholder, ofValue]⟩
  | false => exact .inr ⟨rfl, rfl⟩

section Unset

variable {cell : Cell V} (h : cell.isSet = false)

include h

/-- Without a value, the name of the property is reported. -/
theorem get_of_unset (name : String) : get name cell = ⟨.finished (.error ⟨name⟩), cell, []⟩ := by
  simp [get, h]

theorem modify_of_unset (name : String) (change : V → V) :
    modify name change cell = ⟨.finished (.error ⟨name⟩), cell, []⟩ := by
  simp [modify, h]

variable [Destructible V]

/-- In a cell whose mark is down there is nothing to drop. -/
theorem clear_of_unset : clear cell = ⟨.finished (), cell, []⟩ := by simp [clear, h]

theorem overwrite_of_unset (name : String) (value : V) :
    overwrite name value cell =
      (Action.drop [value] cell).andThen (fun _ => Action.finish (.error ⟨name⟩)) id := by
  simp [overwrite, h]

end Unset

@[simp] theorem emptied_ofValue (value : V) : (ofValue value).emptied = ⟨false, .stale value⟩ := rfl

theorem emptied_of_value?_eq_none {cell : Cell V} (h : cell.value? = none) :
    cell.emptied = cell := by
  simp [emptied, h]

/-- Nothing is left in a cell whose value was moved out. -/
@[simp] theorem value?_emptied (cell : Cell V) : cell.emptied.value? = none := by
  unfold emptied
  split
  · rfl
  · assumption

/-- Moving the value out of a cell leaves its mark truthful. -/
theorem WellFormed.emptied {cell : Cell V} (h : cell.WellFormed) : cell.emptied.WellFormed := by
  rcases h.cases with ⟨value, rfl⟩ | ⟨-, hvalue⟩
  · exact wellFormed_stale value
  · rwa [emptied_of_value?_eq_none hvalue]

/-- Taking hands out the value that the cell owns. -/
theorem take_of_wellFormed {cell : Cell V} (h : cell.WellFormed) :
    take cell = ⟨.finished cell.value?, cell.emptied, []⟩ := by
  rcases h.cases with ⟨value, rfl⟩ | ⟨hset, hvalue⟩
  · rfl
  · rw [hvalue, emptied_of_value?_eq_none hvalue, take, hset]
    rfl

/-- Giving a cell up hands out the value that it owns, and nothing is left to drop. -/
theorem intoInner_of_wellFormed [Destructible V] {cell : Cell V} (h : cell.WellFormed) :
    intoInner cell = ⟨.finished cell.value?, cell.emptied, []⟩ := by
  rw [intoInner, take_of_wellFormed h]
  rcases h.cases with ⟨value, rfl⟩ | ⟨hset, hvalue⟩
  · rfl
  · rw [emptied_of_value?_eq_none hvalue, Ran.andThen_finished, clear_of_unset hset]
    rfl

/-- A copy is made of the value that the cell owns, and the cell stays as it is. -/
theorem clone_of_wellFormed {cell : Cell V} (h : cell.WellFormed) (copy : V → V) :
    clone copy cell = ⟨.finished (ofOption (cell.value?.map copy)), cell,
      cell.value?.toList.flatMap fun value => [.cloned value, .received (copy value)]⟩ := by
  rcases h.cases with ⟨value, rfl⟩ | ⟨hset, hvalue⟩
  · rfl
  · rw [hvalue]
    simp [clone, hset, ofOption]

/-- Where the destructor of the former value panics, the cell is left without a value, and the new
value is dropped behind the former one. -/
theorem set_of_panics [Destructible V] {former : V}
    (hformer : Destructible.panics former = true) (value : V) :
    set value (ofValue former) =
      ⟨if Destructible.panicsAgain value then .aborted else .panicked, ⟨false, .stale former⟩,
        [.dropped former, .dropped value]⟩ := by
  have hclear : clear (ofValue former) =
      ⟨.panicked, ⟨false, .stale former⟩, [.dropped former]⟩ := by
    simp [clear, ofValue, Action.drop, Ran.dropUnwinding, hformer]
  rw [set, hclear, Ran.unwinding_panicked]
  cases hagain : (Destructible.panicsAgain value : Bool) <;> simp [Ran.dropUnwinding, hagain]

end Cell

end Counterpart
