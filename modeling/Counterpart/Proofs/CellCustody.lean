import Counterpart.Cell.Bench
import Counterpart.Proofs.Custody
import Counterpart.Run.Record

/-!
# Cells account for their values

A cell whose mark tells the truth has the value in its care that it owns. Every function of the cell
accounts for that value and for what it is given, and leaves a mark that tells the truth, whichever
destructor panics. A function on one cell of a record or of a bench leaves the others in care.
-/

namespace Counterpart

open Run Run.Event

variable {V ι α : Type} [DecidableEq ι] {identity : V → ι}

/-- An edit leaves the identity of a value alone that it changes in place. -/
def Edit.Preserves (identity : V → ι) : Edit V → Prop
  | .change next => ∀ value, identity (next value) = identity value
  | .replace _ => True

namespace Cell

/-- What is in the care of a cell. -/
def contents (cell : Cell V) : List V := cell.value?.toList

@[simp] theorem contents_ofValue (value : V) : (ofValue value).contents = [value] := rfl

@[simp] theorem contents_unset : (unset : Cell V).contents = [] := rfl

theorem contents_of_isSet_eq_false {cell : Cell V} (h : cell.isSet = false) :
    cell.contents = [] := by
  simp [contents, value?, h]

variable [Destructible V]

/-- Clearing drops the value and leaves no value. -/
theorem accounts_clear {cell : Cell V} (h : cell.WellFormed) :
    (clear cell).Accounts identity cell.contents
      (fun _ after => after.WellFormed ∧ after.isSet = false) (fun _ _ => []) := by
  rcases h.cases with ⟨value, rfl⟩ | ⟨hset, -⟩
  · have hdrop : (clear (ofValue value)).Accounts identity [value]
        (fun _ after => after = ⟨false, .stale value⟩) (fun _ _ => []) :=
      Action.accounts_drop [value] (⟨false, .stale value⟩ : Cell V)
    refine hdrop.imp ?_
    intro answer after hafter
    rw [hafter]
    exact ⟨⟨wellFormed_stale value, rfl⟩, fun x => rfl⟩
  · rw [clear_of_unset hset, contents_of_isSet_eq_false hset]
    have hafter : cell.WellFormed ∧ cell.isSet = false := ⟨h, hset⟩
    exact Ran.accounts_finished hafter fun x => rfl

/-- Setting keeps the new value and drops the old one; if that panics, it drops both. -/
theorem accounts_set {cell : Cell V} (h : cell.WellFormed) (value : V) :
    (set value cell).Keeps identity (cell.contents ++ [value]) Cell.WellFormed Cell.contents := by
  have hclear : ((clear cell).unwinding fun _ => [value]).Accounts identity
      (cell.contents ++ [value]) (fun _ after => after.WellFormed ∧ after.isSet = false)
      (fun answer _ => if answer.isSome then [value] else []) :=
    ((accounts_clear h).frame [value]).unwinding (fun _ _ _ x => rfl) fun _ _ x => rfl
  refine hclear.andThen (fun answer after hafter => ?_) fun after hafter => ?_
  · exact Ran.accounts_finished (wellFormed_ofValue value) fun x => rfl
  · exact ⟨hafter.1, fun x => by simp [contents_of_isSet_eq_false hafter.2]⟩

/-- An edit keeps the value that it changes, or the one that it puts in its place. -/
theorem accounts_edit {cell : Cell V} (h : cell.WellFormed) (name : String) {edit : Edit V}
    (hedit : edit.Preserves identity) :
    (Cell.edit name edit cell).Keeps identity (cell.contents ++ edit.brought)
      Cell.WellFormed Cell.contents := by
  cases edit with
  | change next =>
    rcases h.cases with ⟨value, rfl⟩ | ⟨hset, -⟩
    · refine ⟨wellFormed_ofValue (next value), fun x => ?_⟩
      have hsame := tally_singleton_congr identity (hedit value) x
      change tally identity x [value] = tally identity x [next value]
      exact hsame.symm
    · rw [Cell.edit, modify_of_unset hset, Edit.brought, List.append_nil]
      exact Ran.accounts_finished h fun x => rfl
  | replace value =>
    rcases h.cases with ⟨former, rfl⟩ | ⟨hset, -⟩
    · have hdrop : (Action.drop [former] (ofValue value) : Ran V (Cell V) Unit).Accounts identity
          ([former] ++ [value]) (fun _ after => after = ofValue value) (fun _ _ => [] ++ [value]) :=
        (Action.accounts_drop [former] (ofValue value)).frame [value]
      refine hdrop.andThen (fun answer after hafter => ?_) fun after hafter => ?_
      · obtain rfl := hafter
        exact Ran.accounts_finished (wellFormed_ofValue value) fun x => rfl
      · obtain rfl := hafter
        exact ⟨wellFormed_ofValue value, fun x => rfl⟩
    · rw [Cell.edit, overwrite_of_unset hset, contents_of_isSet_eq_false hset]
      refine (Action.accounts_drop [value] cell).andThen (fun answer after hafter => ?_)
        fun after hafter => ?_
      · obtain rfl := hafter
        exact Ran.accounts_finished h fun x => by simp [contents_of_isSet_eq_false hset]
      · obtain rfl := hafter
        exact ⟨h, fun x => by simp [contents_of_isSet_eq_false hset]⟩

/-- Looking at the value changes nothing. -/
theorem accounts_get {cell : Cell V} (h : cell.WellFormed) (name : String) :
    (get name cell).Keeps identity cell.contents Cell.WellFormed Cell.contents := by
  rcases h.cases with ⟨value, rfl⟩ | ⟨hset, -⟩
  · exact Ran.accounts_finished (wellFormed_ofValue value) fun x => rfl
  · rw [get_of_unset hset]
    exact Ran.accounts_finished h fun x => rfl

end Cell

namespace CellRecord

variable [Destructible V]

/-- A function on the cell under a name accounts for all cells of the record. -/
theorem accounts_onCell {names : List Ident} {record : CellRecord V}
    (hrecord : record.WellFormed names) {name : Ident} (hname : name ∈ names)
    {action : Action V (Cell V) α} {brought : List V}
    (haction : ∀ cell : Cell V, cell.WellFormed →
      (action cell).Keeps identity (cell.contents ++ brought) Cell.WellFormed Cell.contents) :
    (onCell name action record).Keeps identity (contents record ++ brought)
      (WellFormed names) contents := by
  induction record generalizing names with
  | nil =>
    obtain rfl : names = [] := hrecord.names_eq.symm
    cases hname
  | cons entry rest ih =>
    obtain ⟨own, cell⟩ := entry
    obtain ⟨others, rfl⟩ : ∃ others, names = own :: others :=
      ⟨rest.map (·.1), by simpa using hrecord.names_eq.symm⟩
    have hcell : cell.WellFormed := hrecord.cells _ List.mem_cons_self
    have hrest : WellFormed others rest :=
      ⟨by simpa using hrecord.names_eq,
        fun entry h => hrecord.cells entry (List.mem_cons_of_mem _ h)⟩
    by_cases hown : own = name
    · subst hown
      rw [onCell_cons_self]
      have hfirst := (haction cell hcell).frame (contents rest)
      refine Ran.Accounts.of_held (hfirst.withState ?_) ?_
      · intro answer hafter
        refine ⟨⟨?_, ?_⟩, fun x => ?_⟩
        · simp [hrest.names_eq]
        · intro entry hentry
          rcases List.mem_cons.mp hentry with rfl | hmem
          · exact hafter
          · exact hrest.cells entry hmem
        · rw [contents_cons]
          rfl
      · rw [settled_nil, contents_cons]
        intro x
        simp only [tally_append, Cell.contents]
        omega
    · rw [onCell_cons_of_ne hown]
      have hother : name ∈ others := by
        rcases List.mem_cons.mp hname with rfl | hmem
        · exact absurd rfl hown
        · exact hmem
      have hlater := (ih hrest hother).frame cell.contents
      refine Ran.Accounts.of_held (hlater.withState ?_) ?_
      · intro answer hafter
        refine ⟨⟨?_, ?_⟩, ?_⟩
        · simp [hafter.names_eq]
        · intro entry hentry
          rcases List.mem_cons.mp hentry with rfl | hmem
          · exact hcell
          · exact hafter.cells entry hmem
        · rw [contents_cons]
          exact settled_comm _ _
      · rw [settled_nil, contents_cons]
        intro x
        simp only [tally_append, Cell.contents]
        omega

end CellRecord

/-! ## Benches of cells -/

/-- A use of a cell leaves the identity of a value alone that it changes in place. -/
def CellUse.Preserves (identity : V → ι) : CellUse V → Prop
  | .modify _ change => ∀ value, identity (change value) = identity value
  | _ => True

/-- A step leaves the identity of a value alone that it changes in place. -/
def CellStep.Preserves (identity : V → ι) : CellStep V → Prop
  | .call _ use => use.Preserves identity
  | _ => True

/-- An identity that all values share is left alone by every step. -/
theorem CellStep.preserves_shared (step : CellStep V) : step.Preserves fun _ => () := by
  cases step with
  | create => trivial
  | createWith value => trivial
  | call place use =>
    cases use with
    | modify name change => exact fun _ => rfl
    | _ => trivial

namespace CellBench

/-- The values that the cells of a bench own. -/
def contents (bench : CellBench V) : List V :=
  bench.flatMap fun entry => entry.toList.flatMap Cell.contents

/-- The marks of all cells tell the truth. -/
def WellFormed (bench : CellBench V) : Prop := ∀ cell, some cell ∈ bench → cell.WellFormed

@[simp] theorem contents_cons (entry : Option (Cell V)) (rest : CellBench V) :
    contents (entry :: rest) = entry.toList.flatMap Cell.contents ++ contents rest := rfl

theorem wellFormed_nil : WellFormed ([] : CellBench V) := by simp [WellFormed]

theorem wellFormed_set {bench : CellBench V} (h : WellFormed bench) (place : Nat)
    {entry : Option (Cell V)} (hentry : ∀ cell, entry = some cell → cell.WellFormed) :
    WellFormed (bench.set place entry) := by
  intro cell hcell
  rcases List.mem_or_eq_of_mem_set hcell with hmem | hnew
  · exact h cell hmem
  · exact hentry cell hnew.symm

/-- A cell that is added behind the others is one more. -/
theorem wellFormed_add {bench : CellBench V} (h : WellFormed bench) {cell : Cell V}
    (hcell : cell.WellFormed) : WellFormed (bench ++ [some cell]) := by
  intro other hother
  rcases List.mem_append.mp hother with hmem | hnew
  · exact h other hmem
  · cases List.mem_singleton.mp hnew
    exact hcell

/-- Where all cells were given up, nothing is owned. -/
theorem contents_eq_nil {bench : CellBench V} (h : ∀ entry ∈ bench, entry = none) :
    contents bench = [] := by
  refine List.flatMap_eq_nil_iff.mpr fun entry hentry => ?_
  rw [h entry hentry]
  rfl

/-- What cells own is what the one at a place owns and what the others own. -/
theorem settled_set_none {bench : CellBench V} {place : Nat} {entry : Option (Cell V)}
    (h : bench[place]? = some entry) :
    Settled identity (contents bench) []
      (entry.toList.flatMap Cell.contents ++ contents (bench.set place none)) := by
  rw [settled_nil]
  intro x
  induction bench generalizing place with
  | nil => cases h
  | cons first rest ih =>
    cases place with
    | zero =>
      obtain rfl : first = entry := by simpa using h
      simp
    | succ place =>
      have hrest : tally identity x (contents rest) = _ := ih (by simpa using h)
      simp only [List.set_cons_succ, contents_cons, tally_append] at hrest ⊢
      omega

/-- What cells own after another entry was put at a place. -/
theorem settled_set {bench : CellBench V} {place : Nat} {entry : Option (Cell V)}
    (h : bench[place]? = some entry) (after : Option (Cell V)) :
    Settled identity (after.toList.flatMap Cell.contents ++ contents (bench.set place none)) []
      (contents (bench.set place after)) := by
  have hplace : place < bench.length := (List.getElem?_eq_some_iff.mp h).1
  have hafter : (bench.set place after)[place]? = some after := by simp [hplace]
  have hset : Settled identity _ [] _ := settled_set_none hafter
  rw [List.set_set, settled_nil] at hset
  rw [settled_nil]
  exact fun x => (hset x).symm

/-- An answer to a look at the value hands nothing out. -/
theorem handedOut_replyOf (found : Except MissingProperty V) : (replyOf found).handedOut = [] := by
  cases found <;> rfl

variable [Destructible V]

variable (identity) in
/-- Code that had `held` in its care keeps in its state what it neither drops nor hands out with its
answer. -/
abbrev HandsOut {σ : Type} (held : List V) (valid : σ → Prop) (kept : σ → List V)
    (ran : Ran V σ (CellReply V)) : Prop :=
  ran.Accounts identity held (fun _ state => valid state) fun answer state =>
    kept state ++ answer.toList.flatMap CellReply.handedOut

/-- An answer that hands nothing out leaves everything to the cell. -/
theorem handsOut_answer {held : List V} {ran : Ran V (Cell V) α}
    (h : ran.Keeps identity held Cell.WellFormed Cell.contents)
    (reply : α → CellReply V) (hreply : ∀ value, (reply value).handedOut = []) :
    HandsOut identity held Cell.WellFormed Cell.contents
      (ran.andThen (fun value => Action.finish (reply value)) id) := by
  refine h.andThen ?_ ?_
  · intro value after hafter
    refine Ran.accounts_finished hafter fun x => ?_
    simp [hreply value]
  · intro after hafter
    refine ⟨hafter, fun x => ?_⟩
    simp

/-- A step that hands nothing out where nothing happens keeps what there is. -/
theorem accounts_noCell {bench : CellBench V} (hbench : WellFormed bench) :
    HandsOut identity (contents bench) WellFormed contents (Action.finish .noCell bench) :=
  Ran.accounts_finished hbench fun x => by simp [CellReply.handedOut]

/-- Work on the cell at a place accounts for all cells. -/
theorem accounts_onCell {bench : CellBench V} (hbench : WellFormed bench) (place : Nat)
    {action : Action V (Cell V) (CellReply V)}
    (haction : ∀ cell : Cell V, cell.WellFormed →
      HandsOut identity cell.contents Cell.WellFormed Cell.contents (action cell)) :
    HandsOut identity (contents bench) WellFormed contents (onCell place action bench) := by
  unfold onCell
  split
  · next cell hplace =>
    have hcell : cell.WellFormed := hbench cell (List.mem_of_getElem? hplace)
    have hothers := (haction cell hcell).frame (contents (bench.set place none))
    have hset : Settled identity _ [] _ := settled_set hplace (some (action cell).state)
    refine (hothers.withState fun answer hafter => ⟨?_, fun x => ?_⟩).of_held ?_
    · refine wellFormed_set hbench place ?_
      rintro own ⟨⟩
      exact hafter
    · have hx := hset x
      simp only [Option.toList_some, List.flatMap_singleton, tally_append] at hx ⊢
      omega
    · simpa using settled_set_none hplace
  · exact accounts_noCell hbench

/-- Work on the cell at a place that is given up accounts for all cells. -/
theorem accounts_onGivenUp {bench : CellBench V} (hbench : WellFormed bench) (place : Nat)
    {action : Action V (Cell V) (CellReply V)}
    (haction : ∀ cell : Cell V, cell.WellFormed →
      (action cell).Yields identity cell.contents (fun _ => True) CellReply.handedOut) :
    HandsOut identity (contents bench) WellFormed contents (onGivenUp place action bench) := by
  unfold onGivenUp
  split
  · next cell hplace =>
    have hcell : cell.WellFormed := hbench cell (List.mem_of_getElem? hplace)
    have hothers := (haction cell hcell).frame (contents (bench.set place none))
    refine (hothers.withState fun answer _ => ⟨?_, settled_comm _ _⟩).of_held ?_
    · exact wellFormed_set hbench place (by simp)
    · simpa using settled_set_none hplace
  · exact accounts_noCell hbench

/-- A cell that is added keeps its value. -/
theorem accounts_add {bench : CellBench V} (hbench : WellFormed bench) {cell : Cell V}
    (hcell : cell.WellFormed) :
    HandsOut identity (contents bench ++ cell.contents) WellFormed contents (add cell bench) :=
  Ran.accounts_finished (wellFormed_add hbench hcell) fun x => by
    simp [contents, CellReply.handedOut]

/-- A call of a function of a cell accounts for all cells. -/
theorem accounts_call {bench : CellBench V} (hbench : WellFormed bench) (place : Nat)
    {use : CellUse V} (huse : use.Preserves identity) :
    HandsOut identity (contents bench) WellFormed contents (call place use bench) := by
  cases use with
  | set value =>
    refine accounts_onCell hbench place fun cell hcell => ?_
    have hset : HandsOut identity (cell.contents ++ [value]) Cell.WellFormed Cell.contents _ :=
      handsOut_answer (Cell.accounts_set hcell value) (fun _ => .done) fun _ => rfl
    exact hset.after (settled_received cell.contents [value])
  | clear =>
    refine accounts_onCell hbench place fun cell hcell => ?_
    refine handsOut_answer ?_ (fun _ => .done) fun _ => rfl
    refine (Cell.accounts_clear hcell).imp fun answer after hafter => ⟨hafter.1, fun x => ?_⟩
    rw [Cell.contents_of_isSet_eq_false hafter.2]
    rfl
  | isSet =>
    refine accounts_onCell hbench place fun cell hcell => ?_
    have hlook : (Action.look cell).Keeps identity cell.contents Cell.WellFormed Cell.contents :=
      Ran.accounts_finished hcell fun x => rfl
    exact handsOut_answer hlook (fun cell => .truth cell.isSet) fun _ => rfl
  | get name =>
    refine accounts_onCell hbench place fun cell hcell => ?_
    exact handsOut_answer (Cell.accounts_get hcell name) replyOf handedOut_replyOf
  | modify name change =>
    refine accounts_onCell hbench place fun cell hcell => ?_
    have hedit : (Edit.change change).Preserves identity := huse
    have hmodify := Cell.accounts_edit hcell name hedit
    rw [Edit.brought, List.append_nil] at hmodify
    exact handsOut_answer hmodify replyOf handedOut_replyOf
  | overwrite name value =>
    refine accounts_onCell hbench place fun cell hcell => ?_
    have hedit : (Edit.replace value).Preserves identity := trivial
    have hoverwrite := handsOut_answer (Cell.accounts_edit hcell name hedit) replyOf
      handedOut_replyOf
    exact hoverwrite.after (settled_received cell.contents [value])
  | take =>
    refine accounts_onCell hbench place fun cell hcell => ?_
    rw [Action.bind_def, Cell.take_of_wellFormed hcell, Ran.andThen_finished]
    refine Ran.accounts_finished hcell.emptied fun x => ?_
    simp [Cell.contents, CellReply.handedOut]
  | intoInner =>
    refine accounts_onGivenUp hbench place fun cell hcell => ?_
    rw [Action.bind_def, Cell.intoInner_of_wellFormed hcell, Ran.andThen_finished]
    exact Ran.yields_finished trivial fun x => by simp [Cell.contents, CellReply.handedOut]
  | drop =>
    refine accounts_onGivenUp hbench place fun cell hcell => ?_
    refine (Cell.accounts_clear hcell).thenYields (fun _ => rfl) fun _ _ _ => ?_
    exact Ran.yields_finished trivial fun x => by simp [CellReply.handedOut]
  | clone copy =>
    rcases hplace : bench[place]? with _ | _ | cell
    · simp only [call, hplace]
      exact accounts_noCell hbench
    · simp only [call, hplace]
      exact accounts_noCell hbench
    · have hcell : cell.WellFormed := hbench cell (List.mem_of_getElem? hplace)
      rw [call_clone hplace hcell]
      refine ⟨wellFormed_add hbench (Cell.wellFormed_ofOption _), fun x => ?_⟩
      cases cell.value? <;>
        simp [contents, Cell.contents, receivedIn, droppedIn, CellReply.handedOut]
  | «show» =>
    refine accounts_onCell hbench place fun cell hcell => ?_
    exact handsOut_answer (Cell.accounts_get hcell "") (fun found => .shown found.toOption)
      fun _ => rfl
  | unknown =>
    refine accounts_onCell hbench place fun cell hcell => ?_
    exact Ran.accounts_finished hcell fun x => by simp [CellReply.handedOut]

/-- Every step accounts for all cells. -/
theorem accounts_run {bench : CellBench V} (hbench : WellFormed bench) {step : CellStep V}
    (hstep : step.Preserves identity) :
    HandsOut identity (contents bench) WellFormed contents (run step bench) := by
  cases step with
  | create =>
    refine (accounts_add hbench Cell.wellFormed_unset).of_held fun x => ?_
    simp
  | createWith value =>
    have hadd : Ran.Accounts identity _ _ _ _ := accounts_add hbench (Cell.wellFormed_ofValue value)
    exact hadd.after (settled_received (contents bench) [value])
  | call place use => exact accounts_call hbench place hstep

end CellBench

end Counterpart
