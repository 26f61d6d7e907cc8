import Counterpart.Proofs.CellCustody
import Counterpart.Sample.Value

/-!
# Cells are optional values

A cell does what an optional value does that is present exactly while the mark is up. The optional
value has no memory behind it, so nothing can be read, moved out or dropped that is not there; that
the cell goes along with it in every step, also where destructors panic, means that it never uses
content that it does not own.
-/

namespace Counterpart

open Run Run.Event

variable {V ι σ τ α β S : Type}

/-! ## Following reference code -/

namespace Run

/-- Code does what reference code does, where its states stay valid and are seen through a view. -/
def Ran.Follows (valid : σ → Prop) (view : σ → τ) (ran : Ran V σ α) (reference : Ran V τ α) :
    Prop :=
  valid ran.state ∧ ran.withState (view ran.state) = reference

/-- An action does what a reference action does in each valid state. -/
def Action.Follows (valid : σ → Prop) (view : σ → τ) (action : Action V σ α)
    (reference : Action V τ α) : Prop :=
  ∀ state, valid state → (action state).Follows valid view (reference (view state))

variable {valid : σ → Prop} {view : σ → τ}

namespace Ran.Follows

variable {ran : Ran V σ α} {reference : Ran V τ α}

theorem after (h : ran.Follows valid view reference) (events : List (Event V)) :
    (ran.after events).Follows valid view (reference.after events) := by
  obtain ⟨hvalid, rfl⟩ := h
  exact ⟨hvalid, rfl⟩

/-- What comes behind follows what comes behind in the reference. -/
theorem andThen (h : ran.Follows valid view reference) {next : α → Action V σ β}
    {next' : α → Action V τ β} (hnext : ∀ value, (next value).Follows valid view (next' value)) :
    (ran.andThen next id).Follows valid view (reference.andThen next' id) := by
  obtain ⟨hvalid, rfl⟩ := h
  obtain ⟨outcome, state, events⟩ := ran
  cases outcome with
  | finished value => exact (hnext value state hvalid).after events
  | panicked => exact ⟨hvalid, rfl⟩
  | aborted => exact ⟨hvalid, rfl⟩
  | undefined => exact ⟨hvalid, rfl⟩

end Ran.Follows

/-- Dropping while code is unwound leaves the state alone. -/
theorem Ran.follows_dropUnwinding [Destructible V] {state : σ} (hvalid : valid state)
    (values : List V) :
    (dropUnwinding state values : Ran V σ α).Follows valid view
      (dropUnwinding (view state) values) := by
  induction values with
  | nil => exact ⟨hvalid, rfl⟩
  | cons value rest ih =>
    unfold dropUnwinding
    split
    · exact ⟨hvalid, rfl⟩
    · exact ih.after [.dropped value]

/-- What is left behind is dropped as in the reference. -/
theorem Ran.Follows.unwinding [Destructible V] {ran : Ran V σ α} {reference : Ran V τ α}
    (h : ran.Follows valid view reference) (leftovers : List V) :
    (ran.unwinding fun _ => leftovers).Follows valid view
      (reference.unwinding fun _ => leftovers) := by
  obtain ⟨hvalid, rfl⟩ := h
  obtain ⟨outcome, state, events⟩ := ran
  cases outcome with
  | panicked => exact (follows_dropUnwinding hvalid leftovers).after events
  | finished value => exact ⟨hvalid, rfl⟩
  | aborted => exact ⟨hvalid, rfl⟩
  | undefined => exact ⟨hvalid, rfl⟩

namespace Action

theorem follows_finish (value : α) :
    (finish value : Action V σ α).Follows valid view (finish value) :=
  fun _ hvalid => ⟨hvalid, rfl⟩

theorem follows_receive (values : List V) :
    Action.Follows valid view (receive values) (receive values) :=
  fun _ hvalid => ⟨hvalid, rfl⟩

/-- Dropping leaves the state alone. -/
theorem follows_drop [Destructible V] (values : List V) :
    Action.Follows valid view (drop values) (drop values) := by
  intro state hvalid
  induction values with
  | nil => exact ⟨hvalid, rfl⟩
  | cons value rest ih =>
    unfold drop
    split
    · exact (Ran.follows_dropUnwinding hvalid rest).after [.dropped value]
    · exact ih.after [.dropped value]

/-- Actions in turn follow reference actions in turn. -/
theorem Follows.bind {first : Action V σ α} {first' : Action V τ α} {next : α → Action V σ β}
    {next' : α → Action V τ β} (hfirst : first.Follows valid view first')
    (hnext : ∀ value, (next value).Follows valid view (next' value)) :
    (first >>= next).Follows valid view (first' >>= next') :=
  fun state hvalid => (hfirst state hvalid).andThen hnext

end Action

/-- Where every step follows that of the reference, all steps together have the same ends and the
same events, and the states at the end belong together. -/
theorem History.follows {run : S → Action V σ α} {reference : S → Action V τ α}
    (hrun : ∀ step, (run step).Follows valid view (reference step)) (steps : List S) {state : σ}
    (hvalid : valid state) :
    let history := ofSteps run steps state
    valid history.state ∧
      ofSteps reference steps (view state) =
        ⟨history.outcomes, view history.state, history.events⟩ := by
  induction steps generalizing state with
  | nil => exact ⟨hvalid, rfl⟩
  | cons step rest ih =>
    obtain ⟨hafter, hstep⟩ := hrun step state hvalid
    cases hran : run step state with
    | mk outcome after events =>
      rw [hran] at hafter hstep
      rw [ofSteps, ofSteps, hran, ← hstep]
      cases outcome with
      | finished value =>
        obtain ⟨hrest, hlater⟩ := ih hafter
        refine ⟨hrest, ?_⟩
        simp only [Ran.withState_mk, hlater]
      | panicked =>
        obtain ⟨hrest, hlater⟩ := ih hafter
        refine ⟨hrest, ?_⟩
        simp only [Ran.withState_mk, hlater]
      | aborted => exact ⟨hafter, rfl⟩
      | undefined => exact ⟨hafter, rfl⟩

end Run

/-! ## Functions of an optional value -/

namespace OptionCell

/-- Look at the value. -/
def get (name : String) : Action V (Option V) (Except MissingProperty V) := fun held =>
  match held with
  | some value => Action.finish (.ok value) held
  | none => Action.finish (.error ⟨name⟩) held

/-- Change the value in place. -/
def modify (name : String) (change : V → V) : Action V (Option V) (Except MissingProperty V) :=
  fun held => get name (held.map change)

/-- Move the value out. -/
def take : Action V (Option V) (Option V) := fun held => ⟨.finished held, none, []⟩

/-- A copy of the value. -/
def clone (copy : V → V) : Action V (Option V) (Option V) := fun held =>
  ⟨.finished (held.map copy), held,
    held.toList.flatMap fun value => [.cloned value, .received (copy value)]⟩

variable [Destructible V]

/-- Drop the value after it was moved out. -/
def clear : Action V (Option V) Unit := fun held => Action.drop held.toList none

/-- Drop the value after it was moved out, and then put the new one in its place. -/
def set (value : V) : Action V (Option V) Unit := fun held =>
  ((clear held).unwinding fun _ => [value]).andThen (fun _ _ => ⟨.finished (), some value, []⟩) id

/-- Put another value in the place of the present one, which is dropped; without one, the other
value is dropped itself. -/
def overwrite (name : String) (value : V) :
    Action V (Option V) (Except MissingProperty V) := fun held =>
  match held with
  | some former =>
    (Action.drop [former] (some value)).andThen (fun _ => Action.finish (.ok value)) id
  | none => (Action.drop [value] none).andThen (fun _ => Action.finish (.error ⟨name⟩)) id

end OptionCell

namespace Cell

/-- A function of a cell does what a function of an optional value does. -/
abbrev Follows (action : Action V (Cell V) α) (reference : Action V (Option V) α) : Prop :=
  Action.Follows WellFormed value? action reference

/-- The mark is up exactly while there is a value. -/
theorem WellFormed.isSet_eq {cell : Cell V} (h : cell.WellFormed) :
    cell.isSet = cell.value?.isSome := by
  rcases h.cases with ⟨value, rfl⟩ | ⟨hset, hvalue⟩
  · rfl
  · rw [hset, hvalue]
    rfl

theorem follows_get (name : String) : Follows (V := V) (get name) (OptionCell.get name) := by
  intro cell hcell
  rcases hcell.cases with ⟨value, rfl⟩ | ⟨hset, hvalue⟩
  · exact ⟨hcell, rfl⟩
  · rw [get_of_unset hset, hvalue]
    refine ⟨hcell, ?_⟩
    rw [hvalue]
    rfl

theorem follows_modify (name : String) (change : V → V) :
    Follows (modify name change) (OptionCell.modify name change) := by
  intro cell hcell
  rcases hcell.cases with ⟨value, rfl⟩ | ⟨hset, hvalue⟩
  · exact ⟨wellFormed_ofValue (change value), rfl⟩
  · rw [modify_of_unset hset, hvalue]
    refine ⟨hcell, ?_⟩
    rw [hvalue]
    rfl

theorem follows_take : Follows (V := V) take OptionCell.take := by
  intro cell hcell
  rw [take_of_wellFormed hcell]
  refine ⟨hcell.emptied, ?_⟩
  rw [value?_emptied]
  rfl

variable [Destructible V]

theorem follows_intoInner : Follows (V := V) intoInner OptionCell.take := by
  intro cell hcell
  rw [intoInner_of_wellFormed hcell]
  refine ⟨hcell.emptied, ?_⟩
  rw [value?_emptied]
  rfl

/-- The mark is down before the destructor of the value runs. -/
theorem follows_clear : Follows (V := V) clear OptionCell.clear := by
  intro cell hcell
  rcases hcell.cases with ⟨value, rfl⟩ | ⟨hset, hvalue⟩
  · have hdrop : Follows (Action.drop [value]) (Action.drop [value]) := Action.follows_drop [value]
    exact hdrop ⟨false, .stale value⟩ (wellFormed_stale value)
  · rw [clear_of_unset hset, hvalue]
    refine ⟨hcell, ?_⟩
    rw [hvalue]
    rfl

theorem follows_set (value : V) : Follows (set value) (OptionCell.set value) := by
  intro cell hcell
  have hput : Follows (fun _ => ⟨.finished (), ofValue value, []⟩)
      fun _ => ⟨.finished (), some value, []⟩ :=
    fun _ _ => ⟨wellFormed_ofValue value, rfl⟩
  exact ((follows_clear cell hcell).unwinding [value]).andThen fun _ => hput

theorem follows_overwrite (name : String) (value : V) :
    Follows (overwrite name value) (OptionCell.overwrite name value) := by
  intro cell hcell
  have hdrop (dropped : V) : Follows (Action.drop [dropped]) (Action.drop [dropped]) :=
    Action.follows_drop [dropped]
  rcases hcell.cases with ⟨former, rfl⟩ | ⟨hset, hvalue⟩
  · exact (hdrop former (ofValue value) (wellFormed_ofValue value)).andThen
      fun _ => Action.follows_finish (Except.ok value)
  · have hmissing := (hdrop value cell hcell).andThen
      fun _ => Action.follows_finish (.error ⟨name⟩ : Except MissingProperty V)
    rw [overwrite_of_unset hset, hvalue]
    rwa [hvalue] at hmissing

end Cell

/-! ## Benches of optional values -/

/-- The optional values in use; a place whose value was given up is empty. -/
abbrev OptionBench (V : Type) := List (Option (Option V))

namespace OptionBench

/-- Put a further optional value behind the others. -/
def add (held : Option V) : Action V (OptionBench V) (CellReply V) := fun bench =>
  ⟨.finished (.place bench.length), bench ++ [some held], []⟩

/-- Work on the optional value at a place. -/
def onOption (place : Nat) (action : Action V (Option V) (CellReply V)) :
    Action V (OptionBench V) (CellReply V) := fun bench =>
  match bench[place]? with
  | some (some held) =>
    let ran := action held
    ran.withState (bench.set place (some ran.state))
  | _ => Action.finish .noCell bench

/-- Work on the optional value at a place and give it up. -/
def onGivenUp (place : Nat) (action : Action V (Option V) (CellReply V)) :
    Action V (OptionBench V) (CellReply V) := fun bench =>
  match bench[place]? with
  | some (some held) => (action held).withState (bench.set place none)
  | _ => Action.finish .noCell bench

/-- Call a function of the optional value at a place. -/
def call [Destructible V] (place : Nat) : CellUse V → Action V (OptionBench V) (CellReply V)
  | .set value => onOption place do
    Action.receive [value]
    OptionCell.set value
    pure .done
  | .clear => onOption place do
    OptionCell.clear
    pure .done
  | .isSet => onOption place do
    let held ← Action.look
    pure (.truth held.isSome)
  | .get name => onOption place do
    let found ← OptionCell.get name
    pure (CellBench.replyOf found)
  | .modify name change => onOption place do
    let found ← OptionCell.modify name change
    pure (CellBench.replyOf found)
  | .overwrite name value => onOption place do
    Action.receive [value]
    let found ← OptionCell.overwrite name value
    pure (CellBench.replyOf found)
  | .take => onOption place do
    let taken ← OptionCell.take
    pure (.optional taken)
  | .intoInner => onGivenUp place do
    let taken ← OptionCell.take
    pure (.optional taken)
  | .drop => onGivenUp place do
    OptionCell.clear
    pure .done
  | .clone copy => fun bench =>
    match bench[place]? with
    | some (some held) =>
      (OptionCell.clone copy held).andThen (fun copied _ => add copied bench) fun _ => bench
    | _ => Action.finish .noCell bench
  | .show => onOption place do
    let held ← Action.look
    pure (.shown held)
  | .unknown => onOption place (pure .unknown)

/-- Make an optional value, or call a function of one. -/
def run [Destructible V] : CellStep V → Action V (OptionBench V) (CellReply V)
  | .create => add none
  | .createWith value => do
    Action.receive [value]
    add (some value)
  | .call place use => call place use

end OptionBench

namespace CellBench

/-- The values in the cells of a bench, as optional values. -/
def values (bench : CellBench V) : OptionBench V := bench.map (Option.map Cell.value?)

/-- A function of a bench of cells does what a function of a bench of optional values does. -/
abbrev Follows (action : Action V (CellBench V) (CellReply V))
    (reference : Action V (OptionBench V) (CellReply V)) : Prop :=
  Action.Follows WellFormed values action reference

theorem getElem?_values (bench : CellBench V) (place : Nat) :
    bench.values[place]? = bench[place]?.map (Option.map Cell.value?) := List.getElem?_map ..

theorem follows_add {cell : Cell V} (hcell : cell.WellFormed) :
    Follows (add cell) (OptionBench.add cell.value?) := by
  intro bench hbench
  refine ⟨wellFormed_add hbench hcell, ?_⟩
  simp [add, OptionBench.add, values]

/-- Where there is no cell, there is no optional value. -/
theorem follows_noCell : Follows (V := V) (Action.finish CellReply.noCell)
    (Action.finish CellReply.noCell) :=
  Action.follows_finish CellReply.noCell

theorem follows_onCell (place : Nat) {action : Action V (Cell V) (CellReply V)}
    {reference : Action V (Option V) (CellReply V)} (h : Cell.Follows action reference) :
    Follows (onCell place action) (OptionBench.onOption place reference) := by
  intro bench hbench
  unfold onCell OptionBench.onOption
  rw [getElem?_values]
  rcases hplace : bench[place]? with _ | _ | cell
  · exact follows_noCell bench hbench
  · exact follows_noCell bench hbench
  · obtain ⟨hafter, hran⟩ := h cell (hbench cell (List.mem_of_getElem? hplace))
    refine ⟨wellFormed_set hbench place ?_, ?_⟩
    · rintro own ⟨⟩
      exact hafter
    · simp only [Option.map_some, ← hran]
      simp [values, List.map_set, Ran.withState]

theorem follows_onGivenUp (place : Nat) {action : Action V (Cell V) (CellReply V)}
    {reference : Action V (Option V) (CellReply V)} (h : Cell.Follows action reference) :
    Follows (onGivenUp place action) (OptionBench.onGivenUp place reference) := by
  intro bench hbench
  unfold onGivenUp OptionBench.onGivenUp
  rw [getElem?_values]
  rcases hplace : bench[place]? with _ | _ | cell
  · exact follows_noCell bench hbench
  · exact follows_noCell bench hbench
  · obtain ⟨-, hran⟩ := h cell (hbench cell (List.mem_of_getElem? hplace))
    refine ⟨wellFormed_set hbench place (by simp), ?_⟩
    simp only [Option.map_some, ← hran]
    simp [values, List.map_set, Ran.withState]

variable [Destructible V]

/-- A copy of a cell is a further one, and the cell stays as it is. -/
theorem follows_clone (place : Nat) (copy : V → V) :
    Follows (call place (.clone copy)) (OptionBench.call place (.clone copy)) := by
  intro bench hbench
  simp only [OptionBench.call]
  rw [getElem?_values]
  rcases hplace : bench[place]? with _ | _ | cell
  · simp only [call, hplace]
    exact follows_noCell bench hbench
  · simp only [call, hplace]
    exact follows_noCell bench hbench
  · have hcell : cell.WellFormed := hbench cell (List.mem_of_getElem? hplace)
    have hadded : WellFormed (bench ++ [some (.ofOption (cell.value?.map copy))]) :=
      wellFormed_add hbench (Cell.wellFormed_ofOption _)
    rw [call_clone hplace hcell]
    refine ⟨hadded, ?_⟩
    simp [OptionCell.clone, OptionBench.add, values]

/-- A call of a function of a cell does what that of an optional value does. -/
theorem follows_call (place : Nat) (use : CellUse V) :
    Follows (call place use) (OptionBench.call place use) := by
  have hanswer (reply : CellReply V) : Cell.Follows (V := V) (pure reply) (pure reply) :=
    Action.follows_finish reply
  have hreceive (value : V) : Cell.Follows (Action.receive [value]) (Action.receive [value]) :=
    Action.follows_receive [value]
  cases use with
  | set value =>
    exact follows_onCell place ((hreceive value).bind fun _ =>
      (Cell.follows_set value).bind fun _ => hanswer .done)
  | clear => exact follows_onCell place (Cell.follows_clear.bind fun _ => hanswer .done)
  | isSet =>
    refine follows_onCell place fun cell hcell => ⟨hcell, ?_⟩
    simp only [Action.bind_def, Action.look, Ran.andThen_finished, Action.pure_def, Ran.after_nil,
      Ran.withState_mk, hcell.isSet_eq]
  | get name =>
    exact follows_onCell place ((Cell.follows_get name).bind fun found => hanswer (replyOf found))
  | modify name change =>
    exact follows_onCell place
      ((Cell.follows_modify name change).bind fun found => hanswer (replyOf found))
  | overwrite name value =>
    exact follows_onCell place ((hreceive value).bind fun _ =>
      (Cell.follows_overwrite name value).bind fun found => hanswer (replyOf found))
  | take =>
    exact follows_onCell place (Cell.follows_take.bind fun taken => hanswer (.optional taken))
  | intoInner =>
    exact follows_onGivenUp place
      (Cell.follows_intoInner.bind fun taken => hanswer (.optional taken))
  | drop => exact follows_onGivenUp place (Cell.follows_clear.bind fun _ => hanswer .done)
  | clone copy => exact follows_clone place copy
  | «show» =>
    refine follows_onCell place fun cell hcell => ?_
    rcases hcell.cases with ⟨value, rfl⟩ | ⟨hset, hvalue⟩
    · exact ⟨hcell, rfl⟩
    · rw [Action.bind_def, Cell.get_of_unset hset, hvalue]
      refine ⟨hcell, ?_⟩
      simp only [Ran.andThen_finished, Action.pure_def, Ran.after_nil, Ran.withState_mk, hvalue]
      rfl
  | unknown => exact follows_onCell place (hanswer .unknown)

/-- Every step with cells does what the step with optional values does. -/
theorem follows_run (step : CellStep V) : Follows (run step) (OptionBench.run step) := by
  cases step with
  | create => exact follows_add Cell.wellFormed_unset
  | createWith value =>
    have hreceive : Action.Follows WellFormed values (Action.receive [value])
        (Action.receive [value] : Action V (OptionBench V) Unit) := Action.follows_receive [value]
    exact hreceive.bind fun _ => follows_add (Cell.wellFormed_ofValue value)
  | call place use => exact follows_call place use

/-- All steps with cells do what the steps with optional values do. -/
theorem follows_ofSteps (steps : List (CellStep V)) :
    let history := History.ofSteps run steps []
    WellFormed history.state ∧
      History.ofSteps OptionBench.run steps [] =
        ⟨history.outcomes, history.state.values, history.events⟩ :=
  History.follows follows_run steps wellFormed_nil

/-- All steps with cells account for their values. -/
theorem accounts_ofSteps {ι : Type} [DecidableEq ι] {identity : V → ι} {steps : List (CellStep V)}
    (hsteps : ∀ step ∈ steps, step.Preserves identity) :
    (History.ofSteps run steps []).Accounts identity [] WellFormed contents
      CellReply.handedOut := by
  exact History.accounts (fun step hstep _ hbench => accounts_run hbench (hsteps step hstep))
    wellFormed_nil

/-- Whatever is done to however many cells, and whichever destructors panic, a cell is an optional
value that is present exactly while the mark is up. No step uses content that a cell does not own.
The ends of all steps, with what they show and hand out, and all drops in order are those of
optional values.

No value is dropped that was handed out, and none twice; once all cells are given up, every value
that was received was handed out or dropped. A clone leaves its original as it is. Where the
destructor of the former value panics, setting leaves no value in the cell and drops the new one
once. -/
theorem refines_optional_values (steps : List (CellStep V)) :
    let history := History.ofSteps run steps []
    .undefined ∉ history.outcomes ∧
      (.aborted ∈ history.outcomes →
        ∃ value ∈ droppedIn history.events, Destructible.panicsAgain value = true) ∧
      (∀ cell, some cell ∈ history.state →
        cell.WellFormed ∧ cell.isSet = cell.value?.isSome) ∧
      History.ofSteps OptionBench.run steps [] =
        ⟨history.outcomes, history.state.map (Option.map Cell.value?), history.events⟩ ∧
      (∀ {ι : Type} [DecidableEq ι] (identity : V → ι),
        (∀ step ∈ steps, step.Preserves identity) →
        (∀ x, tally identity x (droppedIn history.events)
            + tally identity x (history.handedOut CellReply.handedOut) ≤
          tally identity x (receivedIn history.events)) ∧
        (.aborted ∉ history.outcomes → ∀ x, tally identity x (receivedIn history.events) =
          tally identity x (history.state.contents)
            + tally identity x (history.handedOut CellReply.handedOut)
            + tally identity x (droppedIn history.events)) ∧
        (.aborted ∉ history.outcomes → (∀ entry ∈ history.state, entry = none) →
          ∀ x, tally identity x (receivedIn history.events) =
            tally identity x (history.handedOut CellReply.handedOut)
              + tally identity x (droppedIn history.events))) ∧
      (∀ place cell copy, history.state[place]? = some (some cell) →
        call place (.clone copy) history.state =
          ⟨.finished (.place history.state.length),
            history.state ++ [some (.ofOption (cell.value?.map copy))],
            cell.value?.toList.flatMap fun value => [.cloned value, .received (copy value)]⟩) ∧
      (∀ place cell former value, history.state[place]? = some (some cell) →
        cell.value? = some former → Destructible.panics former = true →
        call place (.set value) history.state =
          ⟨if Destructible.panicsAgain value then .aborted else .panicked,
            history.state.set place (some ⟨false, .stale former⟩),
            [.received value, .dropped former, .dropped value]⟩) := by
  obtain ⟨hvalid, hreference⟩ := follows_ofSteps steps
  have hcell (place : Nat) (cell : Cell V)
      (hplace : (History.ofSteps run steps []).state[place]? = some (some cell)) :
      cell.WellFormed := hvalid cell (List.mem_of_getElem? hplace)
  -- An identity that all values share is left alone by every change.
  have hshared : (History.ofSteps run steps []).Accounts (fun _ : V => ()) [] WellFormed contents
      CellReply.handedOut := accounts_ofSteps fun step _ => step.preserves_shared
  refine ⟨hshared.meaningful, hshared.fatal, fun cell hmem => ?_, hreference,
    fun identity hsteps => ?_, fun place cell copy hplace => ?_,
    fun place cell former value hplace hformer hpanics => ?_⟩
  · exact ⟨hvalid cell hmem, (hvalid cell hmem).isSet_eq⟩
  · have haccounts := accounts_ofSteps hsteps
    refine ⟨fun x => ?_, fun hgoes x => ?_, fun hgoes hgone x => ?_⟩
    · simpa using haccounts.covered x
    · have hx := haccounts.settled hgoes x
      rwa [tally_nil, Nat.zero_add, tally_append] at hx
    · have hx := haccounts.settled hgoes x
      rwa [tally_nil, Nat.zero_add, contents_eq_nil hgone, List.nil_append] at hx
  · exact call_clone hplace (hcell place cell hplace) copy
  · rcases (hcell place cell hplace).cases with ⟨own, rfl⟩ | ⟨-, hnone⟩
    · obtain rfl : own = former := by simpa using hformer
      exact call_set_of_panics hplace hpanics value
    · rw [hnone] at hformer
      cases hformer

end CellBench

/-- Steps in which the destructor of a replaced value panics, and values are copied and handed
out. -/
def Sample.cellSteps : List (CellStep Value) :=
  [.createWith (.watched (-1)), .call 0 (.set (.watched 2)), .call 0 (.set (.watched 3)),
    .call 0 (.clone Value.copied), .call 0 .take, .call 0 (.get "age"), .call 0 .drop,
    .call 1 .intoInner]

/-- Setting panics and leaves no value; after the further steps, every number was handed out or
dropped. -/
theorem refines_cellSteps :
    let history := History.ofSteps CellBench.run Sample.cellSteps []
    history.outcomes = [.finished (.place 0), .panicked, .finished .done, .finished (.place 1),
        .finished (.optional (some (.watched 3))), .finished (.missing ⟨"age"⟩), .finished .done,
        .finished (.optional (some (.watched 1003)))] ∧
      droppedIn history.events = [.watched (-1), .watched 2] ∧
      ∀ x, tally id x (receivedIn history.events) =
        tally id x (history.handedOut CellReply.handedOut)
          + tally id x (droppedIn history.events) := by
  refine ⟨by decide, by decide, ?_⟩
  obtain ⟨-, -, -, -, haccounts, -⟩ := CellBench.refines_optional_values Sample.cellSteps
  have hsteps : ∀ step ∈ Sample.cellSteps, step.Preserves (id : Sample.Value → Sample.Value) := by
    simp [Sample.cellSteps, CellStep.Preserves, CellUse.Preserves]
  exact (haccounts id hsteps).2.2 (by decide) (by decide)

end Counterpart
