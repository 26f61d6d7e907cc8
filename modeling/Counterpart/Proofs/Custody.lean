import Counterpart.Run.Action

/-!
# Every value is accounted for

Code receives values, keeps some of them in its state or its answer, and drops others. Values are
told apart by an identity that changes in place leave alone. Code accounts for its values if, of
every identity, what was in its care and what it received is what it keeps and what it dropped. Only
when a destructor panics during unwinding the process ends, and then no more was dropped than was
there. Code without a meaning accounts for nothing.

What one piece of code keeps is what the next one has in its care, so accounts of parts make an
account of the whole.
-/

namespace Counterpart.Run

variable {V ι σ τ α β S : Type}

namespace Event

/-- The values that were received, in order. -/
def receivedIn (events : List (Event V)) : List V :=
  events.filterMap fun
    | .received value => some value
    | _ => none

/-- The values that were dropped, in order. -/
def droppedIn (events : List (Event V)) : List V :=
  events.filterMap fun
    | .dropped value => some value
    | _ => none

@[simp] theorem receivedIn_nil : receivedIn ([] : List (Event V)) = [] := rfl

@[simp] theorem droppedIn_nil : droppedIn ([] : List (Event V)) = [] := rfl

@[simp] theorem receivedIn_append (first second : List (Event V)) :
    receivedIn (first ++ second) = receivedIn first ++ receivedIn second :=
  List.filterMap_append ..

@[simp] theorem droppedIn_append (first second : List (Event V)) :
    droppedIn (first ++ second) = droppedIn first ++ droppedIn second :=
  List.filterMap_append ..

@[simp] theorem receivedIn_map_received (values : List V) :
    receivedIn (values.map .received) = values := by
  rw [receivedIn, List.filterMap_map]
  exact List.filterMap_some

@[simp] theorem droppedIn_map_received (values : List V) :
    droppedIn (values.map .received) = [] := by
  induction values with
  | nil => rfl
  | cons value rest ih => simp [droppedIn]

end Event

/-! ## What steps hand out -/

/-- The answer of code that ended with one. -/
def Outcome.answer? : Outcome α → Option α
  | .finished value => some value
  | _ => none

namespace History

/-- What was handed out by the steps. -/
def handedOut (handed : α → List V) (history : History V σ α) : List V :=
  (history.outcomes.filterMap Outcome.answer?).flatMap handed

/-- Where answers hand out nothing, nothing is handed out. -/
@[simp] theorem handedOut_nothing (history : History V σ α) :
    history.handedOut (fun _ => []) = [] := by
  simp [handedOut, List.flatMap_eq_nil_iff]

end History

open Event

/-! ## Counting by identity -/

variable [DecidableEq ι] (identity : V → ι)

/-- How often an identity is among values. -/
def tally (x : ι) (values : List V) : Nat := values.countP fun value => identity value = x

@[simp] theorem tally_nil (x : ι) : tally identity x [] = 0 := rfl

@[simp] theorem tally_append (x : ι) (first second : List V) :
    tally identity x (first ++ second) = tally identity x first + tally identity x second :=
  List.countP_append ..

theorem tally_cons (x : ι) (value : V) (rest : List V) :
    tally identity x (value :: rest) = tally identity x [value] + tally identity x rest :=
  tally_append identity x [value] rest

/-- A change that leaves identities alone changes no count. -/
theorem tally_singleton_congr {first second : V} (h : identity first = identity second) (x : ι) :
    tally identity x [first] = tally identity x [second] := by
  simp [tally, h]

/-- Of every identity, what was held and received is what is kept and what was dropped. -/
def Settled (held : List V) (events : List (Event V)) (kept : List V) : Prop :=
  ∀ x, tally identity x held + tally identity x (receivedIn events) =
    tally identity x kept + tally identity x (droppedIn events)

/-- No more was dropped than was held and received. -/
def Covered (held : List V) (events : List (Event V)) : Prop :=
  ∀ x, tally identity x (droppedIn events) ≤
    tally identity x held + tally identity x (receivedIn events)

variable {identity}

theorem Settled.covered {held kept : List V} {events : List (Event V)}
    (h : Settled identity held events kept) : Covered identity held events := by
  intro x
  have hx := h x
  omega

/-- Accounts of one run of events behind another add up. -/
theorem Settled.append {held middle kept : List V} {first second : List (Event V)}
    (hfirst : Settled identity held first middle) (hsecond : Settled identity middle second kept) :
    Settled identity held (first ++ second) kept := by
  intro x
  have hfirst := hfirst x
  have hsecond := hsecond x
  simp only [receivedIn_append, droppedIn_append, tally_append]
  omega

theorem Settled.append_covered {held middle : List V} {first second : List (Event V)}
    (hfirst : Settled identity held first middle) (hsecond : Covered identity middle second) :
    Covered identity held (first ++ second) := by
  intro x
  have hfirst := hfirst x
  have hsecond := hsecond x
  simp only [receivedIn_append, droppedIn_append, tally_append]
  omega

/-- Where nothing happens, the same values are kept. -/
theorem settled_nil {held kept : List V} :
    Settled identity held [] kept ↔ ∀ x, tally identity x held = tally identity x kept := by
  simp [Settled]

/-- What is kept may be told with other words. -/
theorem Settled.told {held middle kept : List V} {events : List (Event V)}
    (h : Settled identity held events middle) (hkept : Settled identity middle [] kept) :
    Settled identity held events kept := by
  have happend := h.append hkept
  rwa [List.append_nil] at happend

/-- Values that are not touched stay. -/
theorem Settled.frame {held kept : List V} {events : List (Event V)}
    (h : Settled identity held events kept) (others : List V) :
    Settled identity (held ++ others) events (kept ++ others) := by
  intro x
  have hx := h x
  simp only [tally_append]
  omega

/-- The same values in another order are the same values. -/
theorem settled_comm (first second : List V) :
    Settled identity (first ++ second) [] (second ++ first) := by
  rw [settled_nil]
  intro x
  simp only [tally_append]
  omega

/-- Received values are in care. -/
theorem settled_received (held values : List V) :
    Settled identity held (values.map .received) (held ++ values) := by
  intro x
  simp

/-- A value that is dropped is no longer in care. -/
theorem settled_dropped (value : V) (rest : List V) :
    Settled identity (value :: rest) [.dropped value] rest := by
  intro x
  rw [tally_cons]
  simp [droppedIn, receivedIn]
  omega

theorem Covered.frame {held : List V} {events : List (Event V)}
    (h : Covered identity held events) (others : List V) :
    Covered identity (held ++ others) events := by
  intro x
  have hx := h x
  simp only [tally_append]
  omega

variable [Destructible V]

/-- A value was dropped whose destructor panics even while code is unwound. -/
def Fatal (events : List (Event V)) : Prop :=
  ∃ value ∈ droppedIn events, Destructible.panicsAgain value = true

theorem Fatal.append_left {events : List (Event V)} (h : Fatal events)
    (earlier : List (Event V)) : Fatal (earlier ++ events) := by
  obtain ⟨value, hvalue, hagain⟩ := h
  refine ⟨value, ?_, hagain⟩
  rw [droppedIn_append]
  exact List.mem_append_right _ hvalue

variable (identity) in
/-- Code that had `held` in its care accounts for all values. What it keeps may depend on its
answer, which is absent if it was unwound, and on its state; `valid` says what else holds of them.
Only the destructor of a value that was dropped ends the process. -/
def Ran.Accounts (held : List V) (valid : Option α → σ → Prop) (kept : Option α → σ → List V)
    (ran : Ran V σ α) : Prop :=
  match ran.outcome with
  | .finished value =>
    valid (some value) ran.state ∧ Settled identity held ran.events (kept (some value) ran.state)
  | .panicked => valid none ran.state ∧ Settled identity held ran.events (kept none ran.state)
  | .aborted => Covered identity held ran.events ∧ Fatal ran.events
  | .undefined => False

variable (identity) in
/-- Code that had `held` in its care keeps all values that it does not drop in its state, whether it
gives an answer or is unwound. -/
abbrev Ran.Keeps (held : List V) (valid : σ → Prop) (kept : σ → List V) (ran : Ran V σ α) : Prop :=
  ran.Accounts identity held (fun _ state => valid state) fun _ state => kept state

variable (identity) in
/-- Code that had `held` in its care gives with its answer all values that it does not drop, and
nothing is left if it is unwound. -/
abbrev Ran.Yields (held : List V) (valid : α → Prop) (kept : α → List V) (ran : Ran V σ α) :
    Prop :=
  ran.Accounts identity held (fun answer _ => ∀ value, answer = some value → valid value)
    fun answer _ => answer.toList.flatMap kept

namespace Ran.Accounts

variable {held middle : List V} {valid : Option α → σ → Prop} {kept : Option α → σ → List V}
variable {ran : Ran V σ α}

/-- Events in front may change what is in care. -/
theorem after (h : ran.Accounts identity middle valid kept) {events : List (Event V)}
    (hevents : Settled identity held events middle) :
    (ran.after events).Accounts identity held valid kept := by
  obtain ⟨outcome, state, own⟩ := ran
  cases outcome with
  | finished value => exact ⟨h.1, hevents.append h.2⟩
  | panicked => exact ⟨h.1, hevents.append h.2⟩
  | aborted => exact ⟨hevents.append_covered h.1, h.2.append_left events⟩
  | undefined => exact h

/-- Code may have the same values in its care in another order. -/
theorem of_held (h : ran.Accounts identity middle valid kept)
    (hheld : Settled identity held [] middle) : ran.Accounts identity held valid kept :=
  h.after hheld

/-- What one part keeps is in the care of the next. -/
theorem andThen {valid' : Option β → τ → Prop} {kept' : Option β → τ → List V}
    {next : α → σ → Ran V τ β} {abandon : σ → τ} (h : ran.Accounts identity held valid kept)
    (hnext : ∀ value state, valid (some value) state →
      (next value state).Accounts identity (kept (some value) state) valid' kept')
    (habandon : ∀ state, valid none state → valid' none (abandon state) ∧
      Settled identity (kept none state) [] (kept' none (abandon state))) :
    (ran.andThen next abandon).Accounts identity held valid' kept' := by
  obtain ⟨outcome, state, own⟩ := ran
  cases outcome with
  | finished value => exact (hnext value state h.1).after h.2
  | panicked =>
    obtain ⟨hvalid, hkept⟩ := habandon state h.1
    exact ⟨hvalid, h.2.told hkept⟩
  | aborted => exact h
  | undefined => exact h

/-- The state may be put into another one, and what is kept may be told with other words. -/
theorem withState {state : τ} {valid' : Option α → τ → Prop} {kept' : Option α → τ → List V}
    (h : ran.Accounts identity held valid kept)
    (himp : ∀ answer, valid answer ran.state → valid' answer state ∧
      Settled identity (kept answer ran.state) [] (kept' answer state)) :
    (ran.withState state).Accounts identity held valid' kept' := by
  obtain ⟨outcome, own, events⟩ := ran
  cases outcome with
  | finished value =>
    obtain ⟨hvalid, hkept⟩ := himp (some value) h.1
    exact ⟨hvalid, h.2.told hkept⟩
  | panicked =>
    obtain ⟨hvalid, hkept⟩ := himp none h.1
    exact ⟨hvalid, h.2.told hkept⟩
  | aborted => exact h
  | undefined => exact h

/-- An account may be told with other words. -/
theorem imp {valid' : Option α → σ → Prop} {kept' : Option α → σ → List V}
    (h : ran.Accounts identity held valid kept)
    (himp : ∀ answer state, valid answer state → valid' answer state ∧
      Settled identity (kept answer state) [] (kept' answer state)) :
    ran.Accounts identity held valid' kept' :=
  h.withState fun answer => himp answer ran.state

/-- Values that code does not touch stay in care. -/
theorem frame (h : ran.Accounts identity held valid kept) (others : List V) :
    ran.Accounts identity (held ++ others) valid fun answer state =>
      kept answer state ++ others := by
  obtain ⟨outcome, state, own⟩ := ran
  cases outcome with
  | finished value => exact ⟨h.1, h.2.frame others⟩
  | panicked => exact ⟨h.1, h.2.frame others⟩
  | aborted => exact ⟨h.1.frame others, h.2⟩
  | undefined => exact h

/-- Where validity and what is kept depend on the state alone, they carry over a panic. -/
theorem next {valid : σ → Prop} {kept : σ → List V}
    (h : ran.Keeps identity held valid kept) {further : α → σ → Ran V σ β}
    (hnext : ∀ value state, valid state →
      (further value state).Keeps identity (kept state) valid kept) :
    (ran.andThen further id).Keeps identity held valid kept :=
  h.andThen hnext fun _ hstate => ⟨hstate, fun _ => rfl⟩

/-- The answer may be put into another one. -/
theorem answer {valid : σ → Prop} {kept : σ → List V}
    (h : ran.Keeps identity held valid kept) (reply : α → β) :
    (ran.andThen (fun value => Action.finish (reply value)) id).Keeps identity held valid kept :=
  h.next fun _ _ hstate => ⟨hstate, fun _ => rfl⟩

/-- Code without a value can only have been unwound. -/
theorem of_unfinished (h : ran.Accounts identity held valid kept) (hran : ran.Unfinished) :
    ran.Accounts identity held (fun answer state => answer = none ∧ valid answer state) kept := by
  obtain ⟨outcome, state, own⟩ := ran
  cases outcome with
  | finished value => exact absurd rfl (hran value)
  | panicked => exact ⟨⟨rfl, h.1⟩, h.2⟩
  | aborted => exact h
  | undefined => exact h

end Ran.Accounts

/-- Code that does nothing keeps what it has. -/
theorem Ran.accounts_finished {held : List V} {valid : Option α → σ → Prop}
    {kept : Option α → σ → List V} {value : α} {state : σ} (hvalid : valid (some value) state)
    (hkept : Settled identity held [] (kept (some value) state)) :
    (⟨.finished value, state, []⟩ : Ran V σ α).Accounts identity held valid kept :=
  ⟨hvalid, hkept⟩

/-! ## Dropping -/

/-- Values that are dropped while code is unwound are dropped once each. -/
theorem Ran.accounts_dropUnwinding (state : σ) (values : List V) :
    (dropUnwinding state values : Ran V σ α).Accounts identity values
      (fun answer after => answer = none ∧ after = state) (fun _ _ => []) := by
  induction values with
  | nil => exact ⟨⟨rfl, rfl⟩, fun x => rfl⟩
  | cons value rest ih =>
    have hfirst : Settled identity (value :: rest) [.dropped value] rest :=
      settled_dropped value rest
    unfold dropUnwinding
    split
    · next hagain => exact ⟨hfirst.covered, value, List.mem_singleton_self value, hagain⟩
    · exact ih.after hfirst

/-- Values that are dropped are dropped once each, whether or not a destructor panics. -/
theorem Action.accounts_drop (values : List V) (state : σ) :
    (Action.drop values state : Ran V σ Unit).Accounts identity values
      (fun _ after => after = state) (fun _ _ => []) := by
  induction values with
  | nil => exact ⟨rfl, fun x => rfl⟩
  | cons value rest ih =>
    have hfirst : Settled identity (value :: rest) [.dropped value] rest :=
      settled_dropped value rest
    unfold Action.drop
    split
    · refine Ran.Accounts.after ?_ hfirst
      refine (Ran.accounts_dropUnwinding state rest).imp fun answer after hvalid => ?_
      exact ⟨hvalid.2, fun x => rfl⟩
    · exact ih.after hfirst

/-- What code leaves behind is dropped when it is unwound. -/
theorem Ran.Accounts.unwinding {held : List V} {valid : Option α → σ → Prop}
    {kept kept' : Option α → σ → List V} {ran : Ran V σ α} {leftovers : σ → List V}
    (h : ran.Accounts identity held valid kept)
    (hfinished : ∀ value state, valid (some value) state →
      Settled identity (kept (some value) state) [] (kept' (some value) state))
    (hpanicked : ∀ state, valid none state →
      Settled identity (kept none state) [] (leftovers state ++ kept' none state)) :
    (ran.unwinding leftovers).Accounts identity held valid kept' := by
  obtain ⟨outcome, state, own⟩ := ran
  cases outcome with
  | finished value => exact ⟨h.1, h.2.told (hfinished value state h.1)⟩
  | panicked =>
    have hdropped : (dropUnwinding state (leftovers state) : Ran V σ α).Accounts identity
        (leftovers state) (fun answer after => answer = none ∧ after = state) (fun _ _ => []) :=
      Ran.accounts_dropUnwinding state (leftovers state)
    refine Ran.Accounts.after ?_ (h.2.told (hpanicked state h.1))
    refine (hdropped.frame (kept' none state)).imp fun answer after hafter => ?_
    obtain ⟨rfl, rfl⟩ := hafter
    exact ⟨h.1, fun x => rfl⟩
  | aborted => exact h
  | undefined => exact h

/-! ## Giving values with the answer -/

section Yields

variable {held : List V} {valid : α → Prop} {kept : α → List V} {valid' : β → Prop}
variable {kept' : β → List V}

/-- Code that does nothing gives what it has. -/
theorem Ran.yields_finished {value : α} {state : σ} (hvalid : valid value)
    (hkept : Settled identity held [] (kept value)) :
    (⟨.finished value, state, []⟩ : Ran V σ α).Yields identity held valid kept := by
  refine Ran.accounts_finished ?_ ?_
  · rintro given ⟨⟩
    exact hvalid
  · simpa using hkept

/-- Where nothing is left if code is unwound, the code behind it decides what is given. -/
theorem Ran.Accounts.thenYields {ran : Ran V σ α} {valid : Option α → σ → Prop}
    {kept : Option α → σ → List V} (h : ran.Accounts identity held valid kept)
    (hnone : ∀ state, kept none state = []) {next : α → σ → Ran V τ β} {abandon : σ → τ}
    (hnext : ∀ value state, valid (some value) state →
      (next value state).Yields identity (kept (some value) state) valid' kept') :
    (ran.andThen next abandon).Yields identity held valid' kept' := by
  refine h.andThen hnext fun state _ => ⟨?_, ?_⟩
  · rintro value ⟨⟩
  · rw [hnone]
    exact fun x => rfl

/-- Code that keeps its values in its state leaves them to the code behind it, or to the
unwinding. -/
theorem Ran.Accounts.unwindingYields {ran : Ran V σ α} {valid : σ → Prop} {kept : σ → List V}
    (h : ran.Keeps identity held valid kept) {next : α → σ → Ran V τ β} {abandon : σ → τ}
    (hnext : ∀ value state, valid state →
      (next value state).Yields identity (kept state) valid' kept') :
    ((ran.unwinding kept).andThen next abandon).Yields identity held valid' kept' := by
  have hunwound : (ran.unwinding kept).Accounts identity held (fun _ state => valid state)
      fun answer state => if answer.isSome then kept state else [] :=
    h.unwinding (fun _ _ _ x => rfl) fun _ _ x => by simp
  exact hunwound.thenYields (fun _ => rfl) hnext

end Yields

/-! ## Many steps -/

namespace History

variable (identity) in
/-- Steps that had `held` in their care account for all values. Every step has a meaning. Up to the
end of the process, the state is valid, and every value is kept in it, was handed out or was
dropped; at no time was more dropped and handed out than there was. -/
structure Accounts (held : List V) (valid : σ → Prop) (kept : σ → List V) (handed : α → List V)
    (history : History V σ α) : Prop where
  meaningful : .undefined ∉ history.outcomes
  fatal : .aborted ∈ history.outcomes → Fatal history.events
  valid_state : .aborted ∉ history.outcomes → valid history.state
  settled : .aborted ∉ history.outcomes → Settled identity held history.events
    (kept history.state ++ history.handedOut handed)
  covered : ∀ x, tally identity x (droppedIn history.events)
      + tally identity x (history.handedOut handed) ≤
    tally identity x held + tally identity x (receivedIn history.events)

variable {held middle : List V} {valid : σ → Prop} {kept : σ → List V} {handed : α → List V}

/-- No steps keep what there is. -/
theorem accounts_nil {state : σ} (hvalid : valid state) :
    (⟨[], state, []⟩ : History V σ α).Accounts identity (kept state) valid kept handed where
  meaningful := nofun
  fatal := nofun
  valid_state _ := hvalid
  settled _ x := by simp [handedOut]
  covered x := by simp [handedOut]

/-- A first step that does not end the process adds to the account of the later ones. -/
theorem Accounts.cons {later : History V σ α} (h : later.Accounts identity middle valid kept handed)
    {outcome : Outcome α} {own : List (Event V)} (hmeaning : outcome ≠ .undefined)
    (hgoes : outcome ≠ .aborted)
    (hown : Settled identity held own (middle ++ outcome.answer?.toList.flatMap handed)) :
    (⟨outcome :: later.outcomes, later.state, own ++ later.events⟩ : History V σ α).Accounts
      identity held valid kept handed := by
  have hhanded : (⟨outcome :: later.outcomes, later.state, own ++ later.events⟩ :
      History V σ α).handedOut handed =
        outcome.answer?.toList.flatMap handed ++ later.handedOut handed := by
    cases hanswer : outcome.answer? <;> simp [handedOut, hanswer]
  have habort (hnone : .aborted ∉ outcome :: later.outcomes) : .aborted ∉ later.outcomes :=
    fun hmem => hnone (List.mem_cons_of_mem _ hmem)
  refine ⟨?_, fun hmem => ?_, fun hnone => h.valid_state (habort hnone), fun hnone x => ?_,
    fun x => ?_⟩
  · intro hmem
    rcases List.mem_cons.mp hmem with rfl | hmem
    · exact hmeaning rfl
    · exact h.meaningful hmem
  · rcases List.mem_cons.mp hmem with rfl | hmem
    · exact absurd rfl hgoes
    · exact (h.fatal hmem).append_left own
  · have hfirst := hown x
    have hrest := h.settled (habort hnone) x
    rw [hhanded]
    simp only [receivedIn_append, droppedIn_append, tally_append] at hfirst hrest ⊢
    omega
  · have hfirst := hown x
    have hrest := h.covered x
    rw [hhanded]
    simp only [receivedIn_append, droppedIn_append, tally_append] at hfirst hrest ⊢
    omega

/-- If each step, from a valid state, accounts for its values, then so do all steps together. -/
theorem accounts {run : S → Action V σ α} {steps : List S}
    (hstep : ∀ step ∈ steps, ∀ state, valid state →
      (run step state).Accounts identity (kept state) (fun _ after => valid after)
        fun answer after => kept after ++ answer.toList.flatMap handed)
    {state : σ} (hvalid : valid state) :
    (ofSteps run steps state).Accounts identity (kept state) valid kept handed := by
  induction steps generalizing state with
  | nil => exact accounts_nil hvalid
  | cons step rest ih =>
    have hfirst := hstep step List.mem_cons_self state hvalid
    have hrest {after : σ} (hafter : valid after) :=
      ih (fun later hlater => hstep later (List.mem_cons_of_mem _ hlater)) hafter
    cases hran : run step state with
    | mk outcome after own =>
      rw [hran] at hfirst
      rw [ofSteps, hran]
      cases outcome with
      | finished value => exact (hrest hfirst.1).cons nofun nofun hfirst.2
      | panicked => exact (hrest hfirst.1).cons nofun nofun hfirst.2
      | aborted =>
        refine ⟨by simp, fun _ => hfirst.2, by simp, by simp, fun x => ?_⟩
        have hown := hfirst.1 x
        simpa [handedOut, Outcome.answer?, List.filterMap_cons] using hown
      | undefined => exact hfirst.elim

end History

end Counterpart.Run
