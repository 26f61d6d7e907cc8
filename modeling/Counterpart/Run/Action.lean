/-!
# Running code that owns values

Values have destructors. Running code ends with a value, or is unwound because something
panicked; a destructor that panics while code is unwound ends the process. A further end stands for
code that has no meaning, such as reading a place without a value. What happened to values on the
way is kept as a list of events. A state survives a panic, so that what was borrowed can be looked
at afterwards.
-/

namespace Counterpart.Run

/-- What happens to values. -/
inductive Event (V : Type) where
  /-- The destructor of a value ran. -/
  | dropped (value : V)
  | cloned (value : V)
  /-- An expression was evaluated for its value. -/
  | evaluated (value : V)
  /-- A value that was nowhere before came into the care of the code. -/
  | received (value : V)
deriving DecidableEq, Repr

/-- How running code ends. -/
inductive Outcome (α : Type) where
  | finished (value : α)
  /-- Something panicked, and the code was unwound. -/
  | panicked
  /-- A destructor panicked while the code was unwound, and the process ended. -/
  | aborted
  /-- The code has no meaning. -/
  | undefined
deriving DecidableEq, Repr

/-- Values with a destructor that may panic. -/
class Destructible (V : Type) where
  panics : V → Bool
  /-- Whether the destructor panics even while code is unwound. -/
  panicsAgain : V → Bool := fun _ => false

/-- What is left when code has run. -/
structure Ran (V σ α : Type) where
  outcome : Outcome α
  state : σ
  events : List (Event V)
deriving Repr

/-- Code that works on a state. -/
abbrev Action (V σ α : Type) : Type := σ → Ran V σ α

variable {V σ τ α β : Type}

namespace Ran

/-- The same end behind further events. -/
def after (events : List (Event V)) (ran : Ran V σ α) : Ran V σ α :=
  { ran with events := events ++ ran.events }

/-- The same end with another state. -/
def withState (state : τ) (ran : Ran V σ α) : Ran V τ α := ⟨ran.outcome, state, ran.events⟩

/-- Drop values in order while code is unwound. A destructor that panics again ends the process. -/
def dropUnwinding [Destructible V] (state : σ) : List V → Ran V σ α
  | [] => ⟨.panicked, state, []⟩
  | value :: rest =>
    if Destructible.panicsAgain value then ⟨.aborted, state, [.dropped value]⟩
    else (dropUnwinding state rest).after [.dropped value]

/-- What comes of code that leaves values behind: if it is unwound, they are dropped. -/
def unwinding [Destructible V] (leftovers : σ → List V) (ran : Ran V σ α) : Ran V σ α :=
  match ran.outcome with
  | .panicked => (dropUnwinding ran.state (leftovers ran.state)).after ran.events
  | _ => ran

/-- Go on with a value, unless there is none. -/
def andThen (ran : Ran V σ α) (next : α → σ → Ran V τ β) (abandon : σ → τ) : Ran V τ β :=
  match ran.outcome with
  | .finished value => (next value ran.state).after ran.events
  | .panicked => ⟨.panicked, abandon ran.state, ran.events⟩
  | .aborted => ⟨.aborted, abandon ran.state, ran.events⟩
  | .undefined => ⟨.undefined, abandon ran.state, ran.events⟩

@[simp] theorem after_nil (ran : Ran V σ α) : ran.after [] = ran := rfl

@[simp] theorem after_mk (first second : List (Event V)) (outcome : Outcome α) (state : σ) :
    (⟨outcome, state, second⟩ : Ran V σ α).after first = ⟨outcome, state, first ++ second⟩ := rfl

@[simp] theorem after_after (first second : List (Event V)) (ran : Ran V σ α) :
    (ran.after second).after first = ran.after (first ++ second) := by
  simp [after]

@[simp] theorem withState_mk (before : σ) (after : τ) (outcome : Outcome α)
    (events : List (Event V)) :
    (⟨outcome, before, events⟩ : Ran V σ α).withState after = ⟨outcome, after, events⟩ := rfl

@[simp] theorem withState_after (state : τ) (events : List (Event V)) (ran : Ran V σ α) :
    (ran.after events).withState state = (ran.withState state).after events := rfl

@[simp] theorem andThen_finished (value : α) (state : σ) (events : List (Event V))
    (next : α → σ → Ran V τ β) (abandon : σ → τ) :
    (⟨.finished value, state, events⟩ : Ran V σ α).andThen next abandon =
      (next value state).after events := rfl

@[simp] theorem andThen_panicked (state : σ) (events : List (Event V))
    (next : α → σ → Ran V τ β) (abandon : σ → τ) :
    (⟨.panicked, state, events⟩ : Ran V σ α).andThen next abandon =
      ⟨.panicked, abandon state, events⟩ := rfl

@[simp] theorem andThen_aborted (state : σ) (events : List (Event V))
    (next : α → σ → Ran V τ β) (abandon : σ → τ) :
    (⟨.aborted, state, events⟩ : Ran V σ α).andThen next abandon =
      ⟨.aborted, abandon state, events⟩ := rfl

@[simp] theorem andThen_undefined (state : σ) (events : List (Event V))
    (next : α → σ → Ran V τ β) (abandon : σ → τ) :
    (⟨.undefined, state, events⟩ : Ran V σ α).andThen next abandon =
      ⟨.undefined, abandon state, events⟩ := rfl

/-- Events in front of the first part stand in front of the whole. -/
@[simp] theorem after_andThen (events : List (Event V)) (ran : Ran V σ α)
    (next : α → σ → Ran V τ β) (abandon : σ → τ) :
    (ran.after events).andThen next abandon = (ran.andThen next abandon).after events := by
  obtain ⟨outcome, state, own⟩ := ran
  cases outcome <;> simp

section Unwinding

variable [Destructible V]

@[simp] theorem unwinding_finished (leftovers : σ → List V) (value : α) (state : σ)
    (events : List (Event V)) :
    (⟨.finished value, state, events⟩ : Ran V σ α).unwinding leftovers =
      ⟨.finished value, state, events⟩ := rfl

@[simp] theorem unwinding_panicked (leftovers : σ → List V) (state : σ) (events : List (Event V)) :
    (⟨.panicked, state, events⟩ : Ran V σ α).unwinding leftovers =
      (dropUnwinding state (leftovers state)).after events := rfl

@[simp] theorem unwinding_aborted (leftovers : σ → List V) (state : σ) (events : List (Event V)) :
    (⟨.aborted, state, events⟩ : Ran V σ α).unwinding leftovers = ⟨.aborted, state, events⟩ := rfl

@[simp] theorem unwinding_undefined (leftovers : σ → List V) (state : σ)
    (events : List (Event V)) :
    (⟨.undefined, state, events⟩ : Ran V σ α).unwinding leftovers =
      ⟨.undefined, state, events⟩ := rfl

/-- Unwinding code that leaves nothing behind drops nothing. -/
@[simp] theorem unwinding_nothing (ran : Ran V σ α) : ran.unwinding (fun _ => []) = ran := by
  obtain ⟨outcome, state, events⟩ := ran
  cases outcome <;> simp [dropUnwinding]

/-- Events in front of code that is unwound stand in front of what is dropped. -/
@[simp] theorem after_unwinding (leftovers : σ → List V) (events : List (Event V))
    (ran : Ran V σ α) :
    (ran.after events).unwinding leftovers = (ran.unwinding leftovers).after events := by
  obtain ⟨outcome, state, own⟩ := ran
  cases outcome <;> simp

/-- Nothing comes behind the unwinding. -/
@[simp] theorem dropUnwinding_andThen (state : σ) (values : List V) (next : α → σ → Ran V τ β)
    (abandon : σ → τ) :
    (dropUnwinding state values).andThen next abandon = dropUnwinding (abandon state) values := by
  induction values with
  | nil => rfl
  | cons value rest ih =>
    unfold dropUnwinding
    split
    · rfl
    · rw [after_andThen, ih]

end Unwinding

/-- There is no value at the end. -/
def Unfinished (ran : Ran V σ α) : Prop := ∀ value, ran.outcome ≠ .finished value

theorem unfinished_panicked (state : σ) (events : List (Event V)) :
    (⟨.panicked, state, events⟩ : Ran V σ α).Unfinished := fun _ => nofun

theorem unfinished_aborted (state : σ) (events : List (Event V)) :
    (⟨.aborted, state, events⟩ : Ran V σ α).Unfinished := fun _ => nofun

theorem unfinished_undefined (state : σ) (events : List (Event V)) :
    (⟨.undefined, state, events⟩ : Ran V σ α).Unfinished := fun _ => nofun

/-- Code that works on nothing ends with a value or without one. -/
theorem finished_or_unfinished (ran : Ran V Unit α) :
    (∃ value events, ran = ⟨.finished value, (), events⟩) ∨ ran.Unfinished := by
  obtain ⟨outcome, ⟨⟩, events⟩ := ran
  cases outcome with
  | finished value => exact .inl ⟨value, events, rfl⟩
  | panicked => exact .inr (unfinished_panicked () events)
  | aborted => exact .inr (unfinished_aborted () events)
  | undefined => exact .inr (unfinished_undefined () events)

theorem Unfinished.after {ran : Ran V σ α} (h : ran.Unfinished) (events : List (Event V)) :
    (ran.after events).Unfinished := h

theorem Unfinished.withState {ran : Ran V σ α} (h : ran.Unfinished) (state : τ) :
    (ran.withState state).Unfinished := h

/-- What comes behind code without a value is not reached. -/
theorem Unfinished.andThen {ran : Ran V σ α} (h : ran.Unfinished) (next : α → σ → Ran V τ β)
    (abandon : σ → τ) : (ran.andThen next abandon).Unfinished := by
  obtain ⟨outcome, state, events⟩ := ran
  cases outcome with
  | finished value => exact absurd rfl (h value)
  | panicked => exact unfinished_panicked _ events
  | aborted => exact unfinished_aborted _ events
  | undefined => exact unfinished_undefined _ events

/-- Unwinding gives no value. -/
theorem unfinished_dropUnwinding [Destructible V] (state : σ) (values : List V) :
    (dropUnwinding state values : Ran V σ α).Unfinished := by
  induction values with
  | nil => exact unfinished_panicked state []
  | cons value rest ih =>
    unfold dropUnwinding
    split
    · exact unfinished_aborted state _
    · exact ih.after _

theorem Unfinished.unwinding [Destructible V] {ran : Ran V σ α} (h : ran.Unfinished)
    (leftovers : σ → List V) : (ran.unwinding leftovers).Unfinished := by
  obtain ⟨outcome, state, events⟩ := ran
  cases outcome with
  | panicked => exact (unfinished_dropUnwinding state (leftovers state)).after events
  | finished found => exact h
  | aborted => exact h
  | undefined => exact h

end Ran

namespace Action

/-- Do nothing and answer a value. -/
def finish (value : α) : Action V σ α := fun state => ⟨.finished value, state, []⟩

/-- Do one thing after another. -/
def andThen (first : Action V σ α) (next : α → Action V σ β) : Action V σ β := fun state =>
  (first state).andThen next id

instance : Monad (Action V σ) where
  pure := finish
  bind := andThen

/-- Code without a meaning. -/
def stuck : Action V σ α := fun state => ⟨.undefined, state, []⟩

/-- Look at the state. -/
def look : Action V σ σ := fun state => ⟨.finished state, state, []⟩

/-- Change the state. -/
def change (next : σ → σ) : Action V σ Unit := fun state => ⟨.finished (), next state, []⟩

/-- Take values that were nowhere before into care. -/
def receive (values : List V) : Action V σ Unit := fun state =>
  ⟨.finished (), state, values.map .received⟩

/-- Panic for a reason of one's own. -/
def panic : Action V σ α := fun state => ⟨.panicked, state, []⟩

/-- Drop values in order. What stands behind one whose destructor panics is dropped by the
unwinding. -/
def drop [Destructible V] : List V → Action V σ Unit
  | [], state => ⟨.finished (), state, []⟩
  | value :: rest, state =>
    (if Destructible.panics value then Ran.dropUnwinding state rest else drop rest state).after
      [.dropped value]

theorem bind_def (first : Action V σ α) (next : α → Action V σ β) (state : σ) :
    (first >>= next) state = (first state).andThen next id := rfl

@[simp] theorem pure_def (value : α) (state : σ) :
    (pure value : Action V σ α) state = ⟨.finished value, state, []⟩ := rfl

@[simp] theorem finish_def (value : α) (state : σ) :
    (finish value state : Ran V σ α) = ⟨.finished value, state, []⟩ := rfl

@[simp] theorem receive_def (values : List V) (state : σ) :
    (receive values state : Ran V σ Unit) = ⟨.finished (), state, values.map .received⟩ := rfl

@[simp] theorem drop_nil [Destructible V] (state : σ) :
    (drop [] state : Ran V σ Unit) = ⟨.finished (), state, []⟩ := rfl

/-- Without a panic, every value is dropped once and in order. -/
theorem drop_of_calm [Destructible V] {values : List V}
    (h : ∀ value ∈ values, Destructible.panics value = false) (state : σ) :
    (drop values state : Ran V σ Unit) = ⟨.finished (), state, values.map .dropped⟩ := by
  induction values with
  | nil => rfl
  | cons value rest ih =>
    have hvalue : Destructible.panics value = false := h value (by simp)
    have hrest := ih fun other hother => h other (by simp [hother])
    simp [drop, hvalue, hrest]

end Action

/-- What is left of several steps. -/
structure History (V σ α : Type) where
  outcomes : List (Outcome α)
  state : σ
  events : List (Event V)
deriving Repr

/-- Do steps in turn. A panic ends only its own step, and the next one finds the state that it left.
Behind the end of the process, and behind code without a meaning, there is no step. -/
def History.ofSteps {S : Type} (run : S → Action V σ α) : List S → σ → History V σ α
  | [], state => ⟨[], state, []⟩
  | step :: rest, state =>
    let ran := run step state
    match ran.outcome with
    | .aborted => ⟨[.aborted], ran.state, ran.events⟩
    | .undefined => ⟨[.undefined], ran.state, ran.events⟩
    | outcome =>
      let later := ofSteps run rest ran.state
      ⟨outcome :: later.outcomes, later.state, ran.events ++ later.events⟩

end Counterpart.Run
