import Counterpart.Proofs.Linking
import Counterpart.Sample.Chain
import Mathlib.Data.List.Induction

/-!
# How properties resolve

The function that makes a host goes through the parameters in the order of their declaration. A
property that was set resolves to its value, and one that was not set to its default, which sees
the resolved values of the parameters before it and nothing else. At the first parameter with
neither a value nor a default the function is left with an error.

While the function runs, its frame has the resolved values as locals, and the cells of the resolved
parameters are empty. This is what every step preserves.

The statements are about defaults that give a value, panic or end the process. A default that leaves
the function by `return` or `?` is among those that give no value, and nothing is said about the
answer that the function is left with.
-/

namespace Counterpart

open Run

variable {V : Type}

/-- A counterpart of a host: a cell for every property, each with a mark that tells the truth. -/
def Host.IsCounterpart (host : Host) (record : CellRecord V) : Prop :=
  record.WellFormed (host.cells.map (·.value))

/-- Parameters that resolve one after another, with the resolved values, the latest first, and with
what happens on the way. -/
inductive Resolves (substitution : Substitution) (evaluate : Evaluator V)
    (record : CellRecord V) : List Parameter → ValueRecord V → List (Event V) → Prop
  | nothing : Resolves substitution evaluate record [] [] []
  /-- A property that was set resolves to its value. -/
  | set {earlier resolved events parameter value}
      (hearlier : Resolves substitution evaluate record earlier resolved events)
      (hvalue : record.value? (Naming.backingField parameter.name.value) = some value) :
      Resolves substitution evaluate record (earlier ++ [parameter])
        ((parameter.name.value, value) :: resolved) events
  /-- A property that was not set resolves to its default in sight of the earlier values. -/
  | default {earlier resolved events parameter expression value own}
      (hearlier : Resolves substitution evaluate record earlier resolved events)
      (hunset : record.value? (Naming.backingField parameter.name.value) = none)
      (hdefault : parameter.fallback = some expression)
      (hvalue : evaluate (substitution.inTree expression) resolved = ⟨.finished value, (), own⟩) :
      Resolves substitution evaluate record (earlier ++ [parameter])
        ((parameter.name.value, value) :: resolved) (events ++ own ++ [.received value])

/-! ## The frame between two parameters -/

namespace Frame

/-- The frame in which the given values are resolved and some cells are empty. -/
def resolving (resolved : ValueRecord V) (count : Nat) (record : CellRecord V) : Frame V :=
  ⟨resolved.map fun entry => (entry.1, some entry.2), CellRecord.emptied count record⟩

/-- A default sees exactly the resolved values. -/
theorem visible_resolving (resolved : ValueRecord V) (count : Nat) (record : CellRecord V) :
    (resolving resolved count record).visible = resolved := by
  simp [visible, resolving, List.filterMap_map]

/-- The function owns the resolved values and what is left in the cells. -/
theorem contents_resolving (resolved : ValueRecord V) (count : Nat) (record : CellRecord V) :
    (resolving resolved count record).contents =
      resolved.contents ++ CellRecord.contents (record.drop count) := by
  simp [contents, resolving, List.filterMap_map, ValueRecord.contents,
    CellRecord.contents_emptied]

/-- The value of a local is found behind locals of other names. -/
theorem taken?_append {name : Ident} {front : List (Ident × Option V)}
    (hfront : ∀ entry ∈ front, entry.1 ≠ name) (value : V) (back : List (Ident × Option V)) :
    taken? name (front ++ (name, some value) :: back) =
      some (value, front ++ (name, none) :: back) := by
  induction front with
  | nil => simp [taken?]
  | cons entry rest ih =>
    obtain ⟨own, slot⟩ := entry
    have hown : own ≠ name := hfront (own, slot) List.mem_cons_self
    have hrest := ih fun other hother => hfront other (List.mem_cons_of_mem _ hother)
    rw [List.cons_append, taken?, if_neg hown, hrest]
    rfl

end Frame

namespace Body

/-- The fields of the host are the values of the locals of their names. -/
theorem assemble_locals {pending : ValueRecord V} (hnames : (pending.map (·.1)).Nodup)
    (back : List (Ident × Option V)) (receiver : CellRecord V) :
    assemble (pending.map (·.1))
        ⟨(pending.map fun entry => (entry.1, some entry.2)).reverse ++ back, receiver⟩ =
      ⟨.finished pending,
        ⟨(pending.map fun entry => (entry.1, none)).reverse ++ back, receiver⟩, []⟩ := by
  induction pending generalizing back with
  | nil => rfl
  | cons entry rest ih =>
    obtain ⟨name, value⟩ := entry
    rw [List.map_cons, List.nodup_cons] at hnames
    have hother : ∀ entry ∈ (rest.map fun entry => (entry.1, some entry.2)).reverse,
        entry.1 ≠ name := by
      intro entry hentry
      obtain ⟨origin, horigin, rfl⟩ := List.mem_map.mp (List.mem_reverse.mp hentry)
      exact fun hname => hnames.1 (List.mem_map.mpr ⟨origin, horigin, hname⟩)
    have htaken := Frame.taken?_append hother value back
    have hrest := ih hnames.2 ((name, none) :: back)
    simp [assemble, Action.bind_def, moveOut, htaken, hrest]

/-- Taking the value out of the next cell empties it. -/
theorem onReceiver_take {names : List Ident} {record : CellRecord V}
    (hrecord : record.WellFormed names) (hnames : names.Nodup) {count : Nat} {cell : Ident}
    (hcell : names[count]? = some cell) (resolved : ValueRecord V) :
    onReceiver (CellRecord.onCell cell Cell.take) (.resolving resolved count record) =
      ⟨.finished (record.value? cell), .resolving resolved (count + 1) record, []⟩ := by
  simp only [onReceiver, Frame.resolving,
    CellRecord.onCell_take_emptied hrecord hnames hcell, Ran.withState_mk]

variable [Destructible V]

/-- The name of a taken value hides no local for longer than it takes to move the value out. -/
theorem within_moved (evaluate : Evaluator V) (name : Ident) (value : V) (frame : Frame V) :
    within name value (evaluateCode evaluate (.moved name)) frame =
      ⟨.finished (.ok value), frame, []⟩ := by
  have hmoved : moveOut name (frame.push name value) =
      ⟨.finished value, { frame with locals := (name, none) :: frame.locals }, []⟩ := by
    simp [moveOut, Frame.push, Frame.taken?]
  simp [within, evaluateCode, Action.bind_def, hmoved, Frame.latest, Frame.pop]

/-- A step takes its value from its cell, or else from its fallback, for which the name of a taken
value is not in scope. -/
theorem evaluateCode_step (evaluate : Evaluator V) {names : List Ident} {record : CellRecord V}
    (hrecord : record.WellFormed names) (hnames : names.Nodup) {count : Nat} {step : Resolution}
    (hcell : names[count]? = some step.cell) (resolved : ValueRecord V) :
    evaluateCode evaluate step.code (.resolving resolved count record) =
      match record.value? step.cell with
      | some value => ⟨.finished (.ok value), .resolving resolved (count + 1) record, []⟩
      | none =>
        evaluateCode evaluate step.fallback.code (.resolving resolved (count + 1) record) := by
  rw [Resolution.code, evaluateCode, Action.bind_def,
    onReceiver_take hrecord hnames hcell, Ran.andThen_finished, Ran.after_nil]
  cases record.value? step.cell with
  | some value => exact within_moved evaluate _ value _
  | none => rfl

/-- A default is evaluated in sight of the resolved values, and its value comes into the care of the
function. -/
theorem evaluateCode_user (evaluate : Evaluator V) (expression : Tree)
    (resolved : ValueRecord V) (count : Nat) (record : CellRecord V) :
    evaluateCode evaluate (.user expression) (.resolving resolved count record) =
      ((evaluate expression resolved).withState (.resolving resolved count record)).andThen
        (fun value frame => ⟨.finished (.ok value), frame, [.received value]⟩) id := by
  rw [evaluateCode, Action.bind_def, Frame.visible_resolving]
  rfl

end Body

/-! ## Going through the parameters -/

variable {host : Host} {emission : Emission} {evaluate : Evaluator V} {record : CellRecord V}
variable {earlier later : List Parameter} {resolved : ValueRecord V} {events : List (Event V)}

/-- Resolved values stand under the names of their parameters. -/
theorem Resolves.names {substitution : Substitution}
    (h : Resolves substitution evaluate record earlier resolved events) :
    resolved.reverse.map (·.1) = earlier.map (·.name.value) := by
  induction h with
  | nothing => rfl
  | set hearlier hvalue ih => simpa using ih
  | default hearlier hunset hdefault hvalue ih => simpa using ih

/-- As many values are resolved as there are parameters. -/
theorem Resolves.length {substitution : Substitution}
    (h : Resolves substitution evaluate record earlier resolved events) :
    resolved.length = earlier.length := by
  simpa using congrArg List.length h.names

namespace Host

/-- How the parameters are resolved, without the conditions on them. -/
def steps (host : Host) (parameters : List Parameter) : List Resolution :=
  parameters.map fun parameter => (host.resolution parameter).value

@[simp] theorem steps_nil (host : Host) : host.steps [] = [] := rfl

@[simp] theorem steps_cons (host : Host) (parameter : Parameter) (rest : List Parameter) :
    host.steps (parameter :: rest) = (host.resolution parameter).value :: host.steps rest := rfl

/-- The cell of a parameter stands at the place of the parameter. -/
theorem getElem?_cells {parameter : Parameter}
    (hplace : host.parameters = earlier ++ parameter :: later) :
    (host.cells.map (·.value))[earlier.length]? = some (host.resolution parameter).value.cell := by
  simp [cells, hplace, gated, resolution]

end Host

namespace Body

variable [Destructible V]

/-- A parameter takes its value from its cell, else from its default, and without either the
function is left. -/
theorem evaluateCode_parameter (evaluate : Evaluator V) (hrecord : host.IsCounterpart record)
    (hcells : (host.cells.map (·.value)).Nodup) {parameter : Parameter}
    (hplace : host.parameters = earlier ++ parameter :: later) (resolved : ValueRecord V) :
    evaluateCode evaluate (host.resolution parameter).value.code
        (.resolving resolved earlier.length record) =
      match record.value? (Naming.backingField parameter.name.value), parameter.fallback with
      | some value, _ =>
        ⟨.finished (.ok value), .resolving resolved (earlier.length + 1) record, []⟩
      | none, some expression =>
        ((evaluate (host.substitution.inTree expression) resolved).withState
            (.resolving resolved (earlier.length + 1) record)).andThen
          (fun value frame => ⟨.finished (.ok value), frame, [.received value]⟩) id
      | none, none =>
        ⟨.finished (.error ⟨Naming.displayName parameter.name.value⟩),
          .resolving resolved (earlier.length + 1) record, []⟩ := by
  have hcell : (host.resolution parameter).value.cell =
      Naming.backingField parameter.name.value := rfl
  have hfallback : (host.resolution parameter).value.fallback = host.fallbackOf parameter := rfl
  rw [evaluateCode_step evaluate hrecord hcells (Host.getElem?_cells hplace), hcell, hfallback]
  cases record.value? (Naming.backingField parameter.name.value) with
  | some value => rfl
  | none =>
    cases hdefault : parameter.fallback with
    | some expression =>
      simp only [Host.fallbackOf, hdefault, Fallback.code, evaluateCode_user]
    | none =>
      simp only [Host.fallbackOf, hdefault, Fallback.code, evaluateCode]
      rfl

/-- Behind parameters that resolve, the function goes on in the frame with their values. -/
theorem bindAll_resolves (hrecord : host.IsCounterpart record)
    (hcells : (host.cells.map (·.value)).Nodup)
    (h : Resolves host.substitution evaluate record earlier resolved events)
    (hplace : host.parameters = earlier ++ later) :
    bindAll evaluate (host.steps host.parameters) (.entering record) =
      (bindAll evaluate (host.steps later)
        (.resolving resolved earlier.length record)).after events := by
  induction h generalizing later with
  | nothing => rw [hplace]; rfl
  | @set earlier resolved events parameter value hearlier hvalue ih =>
    have hparameter : host.parameters = earlier ++ parameter :: later := by simpa using hplace
    have hstep := evaluateCode_parameter evaluate hrecord hcells hparameter resolved
    rw [hvalue] at hstep
    rw [ih hparameter, Host.steps_cons, bindAll, Action.bind_def, hstep,
      List.length_append]
    rfl
  | @default earlier resolved events parameter expression value own hearlier hunset hdefault hvalue
      ih =>
    have hparameter : host.parameters = earlier ++ parameter :: later := by simpa using hplace
    have hstep := evaluateCode_parameter evaluate hrecord hcells hparameter resolved
    simp only [hunset, hdefault, hvalue, Ran.withState_mk, Ran.andThen_finished,
      Ran.after_mk] at hstep
    rw [ih hparameter, Host.steps_cons, bindAll, Action.bind_def, hstep,
      Ran.andThen_finished, Ran.after_after, List.append_assoc, List.length_append]
    rfl

/-- When all locals are bound, the host is made from them. -/
theorem resolveAll_of_bound {steps : List Resolution} {fields : List Ident}
    {start bound last : Frame V} {built : ValueRecord V}
    (hbind : bindAll evaluate steps start = ⟨.finished (.ok ()), bound, events⟩)
    (hassemble : assemble fields bound = ⟨.finished built, last, []⟩) :
    resolveAll evaluate steps fields start = ⟨.finished (.ok built), last, events⟩ := by
  rw [resolveAll, Action.bind_def, hbind, Ran.andThen_finished]
  change ((assemble fields bound).andThen (fun built => Action.finish (Except.ok built)) id).after
    events = _
  rw [hassemble]
  simp

/-- Without a value for a local, no host is made. -/
theorem resolveAll_of_missing {steps : List Resolution} {start left : Frame V}
    {missing : MissingProperty}
    (hbind : bindAll evaluate steps start = ⟨.finished (.error missing), left, events⟩)
    (fields : List Ident) :
    resolveAll evaluate steps fields start = ⟨.finished (.error missing), left, events⟩ := by
  rw [resolveAll, Action.bind_def, hbind, Ran.andThen_finished]
  simp

/-- If all parameters resolve, the host is made from their values, and nothing is left. -/
theorem call_of_resolved (hrecord : host.IsCounterpart record)
    (hcells : (host.cells.map (·.value)).Nodup)
    (h : Resolves host.substitution evaluate record host.parameters resolved events) :
    call (resolveAll evaluate (host.steps host.parameters)
        (host.parameters.map (·.name.value))) record =
      ⟨.finished (.ok resolved.reverse), (), events⟩ := by
  have hbind := bindAll_resolves hrecord hcells h (List.append_nil _).symm
  rw [Host.steps_nil, bindAll, Action.pure_def, Ran.after_mk, List.append_nil] at hbind
  have hfields : (resolved.reverse.map (·.1)).Nodup := by
    rw [h.names, ← Host.names_cells]
    exact hcells
  have hlength : record.length = host.parameters.length := by
    simpa [Host.cells] using congrArg List.length hrecord.names_eq
  have hassemble := assemble_locals hfields [] (CellRecord.emptied host.parameters.length record)
  rw [h.names, List.map_reverse, List.reverse_reverse, List.append_nil] at hassemble
  have hlast : Frame.contents ⟨(resolved.reverse.map fun entry => (entry.1, none)).reverse ++ [],
      CellRecord.emptied host.parameters.length record⟩ = [] := by
    simp [Frame.contents, CellRecord.contents_emptied, ← hlength, List.filterMap_map]
  rw [call, resolveAll_of_bound hbind hassemble, Ran.unwinding_finished, Ran.andThen_finished,
    hlast]
  simp

/-- At a parameter with neither a value nor a default, the function is left with the error for it,
and what it still owns is dropped. -/
theorem call_of_missing (hrecord : host.IsCounterpart record)
    (hcells : (host.cells.map (·.value)).Nodup)
    (h : Resolves host.substitution evaluate record earlier resolved events)
    {parameter : Parameter} (hplace : host.parameters = earlier ++ parameter :: later)
    (hunset : record.value? (Naming.backingField parameter.name.value) = none)
    (hdefault : parameter.fallback = none) (fields : List Ident) :
    call (resolveAll evaluate (host.steps host.parameters) fields) record =
      ((Action.drop (resolved.contents
          ++ CellRecord.contents (record.drop (earlier.length + 1))) ()).andThen
        (fun _ => Action.finish (.error ⟨Naming.displayName parameter.name.value⟩)) id).after
          events := by
  have hstep := evaluateCode_parameter evaluate hrecord hcells hplace resolved
  simp only [hunset, hdefault] at hstep
  have hbind := bindAll_resolves hrecord hcells h hplace
  rw [Host.steps_cons, bindAll, Action.bind_def, hstep,
    Ran.andThen_finished] at hbind
  simp only [Action.pure_def, Ran.after_mk, List.append_nil] at hbind
  rw [call, resolveAll_of_missing hbind, Ran.unwinding_finished, Ran.andThen_finished,
    Frame.contents_resolving]
  simp [builtContents]

/-- A default that gives no value ends the function in its own way; if that is a panic, what the
function owns is dropped. -/
theorem call_of_unfinished (hrecord : host.IsCounterpart record)
    (hcells : (host.cells.map (·.value)).Nodup)
    (h : Resolves host.substitution evaluate record earlier resolved events)
    {parameter : Parameter} (hplace : host.parameters = earlier ++ parameter :: later)
    (hunset : record.value? (Naming.backingField parameter.name.value) = none)
    {expression : Tree} (hdefault : parameter.fallback = some expression)
    (hvalue : (evaluate (host.substitution.inTree expression) resolved).Unfinished)
    (fields : List Ident) :
    call (resolveAll evaluate (host.steps host.parameters) fields) record =
      (((evaluate (host.substitution.inTree expression) resolved).unwinding fun _ =>
          resolved.contents ++ CellRecord.contents (record.drop (earlier.length + 1))).andThen
        (fun _ => Action.stuck) id).after events := by
  have hstep := evaluateCode_parameter evaluate hrecord hcells hplace resolved
  simp only [hunset, hdefault] at hstep
  have hbind := bindAll_resolves hrecord hcells h hplace
  rw [Host.steps_cons, bindAll, Action.bind_def, hstep] at hbind
  rw [call, resolveAll, Action.bind_def, hbind]
  have hcontents := Frame.contents_resolving resolved (earlier.length + 1) record
  cases hran : evaluate (host.substitution.inTree expression) resolved with
  | mk outcome state own =>
    rw [hran] at hvalue
    cases outcome with
    | finished value => exact absurd rfl (hvalue value)
    | panicked => simp [hcontents]
    | aborted => simp
    | undefined => simp

end Body

/-- Either all parameters resolve, or some first one does not: it has neither a value nor a default,
or its default gives no value. -/
theorem exists_resolves (substitution : Substitution) (evaluate : Evaluator V)
    (record : CellRecord V) (parameters : List Parameter) :
    (∃ resolved events, Resolves substitution evaluate record parameters resolved events) ∨
      ∃ earlier parameter later resolved events, parameters = earlier ++ parameter :: later ∧
        Resolves substitution evaluate record earlier resolved events ∧
        record.value? (Naming.backingField parameter.name.value) = none ∧
        (parameter.fallback = none ∨ ∃ expression, parameter.fallback = some expression ∧
          (evaluate (substitution.inTree expression) resolved).Unfinished) := by
  induction parameters using List.reverseRecOn with
  | nil => exact .inl ⟨[], [], .nothing⟩
  | append_singleton earlier parameter ih =>
    rcases ih with ⟨resolved, events, hearlier⟩ | hstuck
    · cases hvalue : record.value? (Naming.backingField parameter.name.value) with
      | some value => exact .inl ⟨_, _, .set hearlier hvalue⟩
      | none =>
        cases hdefault : parameter.fallback with
        | none => exact .inr ⟨earlier, parameter, [], resolved, events, rfl, hearlier, hvalue,
            .inl hdefault⟩
        | some expression =>
          rcases Run.Ran.finished_or_unfinished
            (evaluate (substitution.inTree expression) resolved) with ⟨value, own, hfinished⟩ | hnot
          · exact .inl ⟨_, _, .default hearlier hvalue hdefault hfinished⟩
          · exact .inr ⟨earlier, parameter, [], resolved, events, rfl, hearlier, hvalue,
              .inr ⟨expression, hdefault, hnot⟩⟩
    · obtain ⟨front, stuck, later, resolved, events, hplace, hfront, hunset, hreason⟩ := hstuck
      refine .inr ⟨front, stuck, later ++ [parameter], resolved, events, ?_, hfront, hunset, hreason⟩
      rw [hplace, List.append_assoc, List.cons_append]

/-- Building is calling the function that resolves all parameters and makes a host. -/
theorem Emission.build_eq_call [Destructible V] (h : host.emission = .ok emission)
    (evaluate : Evaluator V) (record : CellRecord V) :
    emission.build evaluate Naming.build record =
      Body.call (Body.resolveAll evaluate (host.steps host.parameters)
        (host.parameters.map (·.name.value))) record := by
  rw [Emission.build, Host.counterpartBody?_build h]
  simp [Host.buildBody, Host.steps, Host.gated, Function.comp_def]

/-- The function that makes a host resolves the parameters in the order of their declaration. If all
resolve, the host has the resolved values under the names of its parameters. At the first parameter
with neither a value nor a default, no later default is evaluated, and there is the error with the
name of that parameter instead of a host. A default that gives no value leaves no answer either.
One of these is the case for every counterpart. -/
theorem build_resolution [Destructible V] (h : host.emission = .ok emission)
    (evaluate : Evaluator V) (hrecord : host.IsCounterpart record) :
    (∀ resolved events,
      Resolves host.substitution evaluate record host.parameters resolved events →
        resolved.reverse.map (·.1) = host.parameters.map (·.name.value) ∧
        emission.build evaluate Naming.build record =
          ⟨.finished (.ok resolved.reverse), (), events⟩) ∧
    (∀ earlier parameter later resolved events,
      host.parameters = earlier ++ parameter :: later →
      Resolves host.substitution evaluate record earlier resolved events →
      record.value? (Naming.backingField parameter.name.value) = none →
        (parameter.fallback = none →
          emission.build evaluate Naming.build record =
            ((Action.drop (resolved.contents
                ++ CellRecord.contents (record.drop (earlier.length + 1))) ()).andThen
              (fun _ => Action.finish (.error ⟨Naming.displayName parameter.name.value⟩))
              id).after events) ∧
        ∀ expression, parameter.fallback = some expression →
          (evaluate (host.substitution.inTree expression) resolved).Unfinished →
          (emission.build evaluate Naming.build record).Unfinished) ∧
    ((∃ resolved events,
        Resolves host.substitution evaluate record host.parameters resolved events) ∨
      ∃ earlier parameter later resolved events,
        host.parameters = earlier ++ parameter :: later ∧
        Resolves host.substitution evaluate record earlier resolved events ∧
        record.value? (Naming.backingField parameter.name.value) = none ∧
        (parameter.fallback = none ∨ ∃ expression, parameter.fallback = some expression ∧
          (evaluate (host.substitution.inTree expression) resolved).Unfinished)) := by
  have hcells := Host.cells_nodup_of_emission h
  rw [Emission.build_eq_call h]
  refine ⟨?_, ?_, exists_resolves host.substitution evaluate record host.parameters⟩
  · intro resolved events hresolves
    exact ⟨hresolves.names, Body.call_of_resolved hrecord hcells hresolves⟩
  · intro earlier parameter later resolved events hplace hresolves hunset
    refine ⟨fun hdefault => ?_, fun expression hdefault hvalue => ?_⟩
    · exact Body.call_of_missing hrecord hcells hresolves hplace hunset hdefault _
    · rw [Body.call_of_unfinished hrecord hcells hresolves hplace hunset hdefault hvalue]
      exact ((hvalue.unwinding _).andThen _ _).after events

/-- A counterpart of the sample host in which the first property and, if given, the last were
set. -/
def Sample.chainRecord (last : Cell Sample.Value) : CellRecord Sample.Value :=
  [(.plain "first", .ofValue (.watched 1)), (.plain "value", .unset), (.plain "last", last)]

/-- The counterpart is one of the sample host. -/
theorem Sample.isCounterpart_chainRecord {last : Cell Sample.Value} (hlast : last.WellFormed) :
    Sample.chainHost.IsCounterpart (Sample.chainRecord last) where
  names_eq := rfl
  cells := by
    simp [chainRecord, hlast, Cell.wellFormed_ofValue, Cell.wellFormed_unset]

/-- The first two properties of the sample host resolve, the second by its default. -/
theorem Sample.resolves_chain (last : Cell Sample.Value) :
    Resolves Sample.chainHost.substitution Sample.chainEvaluate (Sample.chainRecord last)
      (Sample.chainHost.parameters.take 2)
      [(.plain "value", .watched 1001), (.plain "first", .watched 1)]
      [.cloned (.watched 1), .received (.watched 1001)] := by
  have hfirst : Resolves chainHost.substitution chainEvaluate (chainRecord last)
      [chainParameter 0 "first" none] [(.plain "first", .watched 1)] [] := .set .nothing rfl
  exact hfirst.default rfl rfl rfl

/-- With its last property set, the sample host is built with the default of the second; without
it, the two values that were there are dropped and the last property is missing. -/
theorem build_chain : ∃ emission, Sample.chainHost.emission = .ok emission ∧
    emission.build Sample.chainEvaluate Naming.build (Sample.chainRecord (.ofValue (.watched 3))) =
      ⟨.finished (.ok [(.plain "first", .watched 1), (.plain "value", .watched 1001),
        (.plain "last", .watched 3)]), (), [.cloned (.watched 1), .received (.watched 1001)]⟩ ∧
    emission.build Sample.chainEvaluate Naming.build (Sample.chainRecord .unset) =
      ⟨.finished (.error ⟨"last"⟩), (), [.cloned (.watched 1), .received (.watched 1001),
        .dropped (.watched 1001), .dropped (.watched 1)]⟩ := by
  obtain ⟨emission, hemission⟩ := Sample.exists_emission_chain
  have hset := build_resolution hemission Sample.chainEvaluate
    (Sample.isCounterpart_chainRecord (Cell.wellFormed_ofValue (.watched 3)))
  have hunset := build_resolution hemission Sample.chainEvaluate
    (Sample.isCounterpart_chainRecord Cell.wellFormed_unset)
  refine ⟨emission, hemission, ?_, ?_⟩
  · exact (hset.1 _ _ (.set (Sample.resolves_chain _) rfl)).2
  · rw [(hunset.2.1 _ _ [] _ _ rfl (Sample.resolves_chain _) rfl).1 rfl]
    rfl

end Counterpart
