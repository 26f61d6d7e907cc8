import Counterpart.Proofs.PropertyStore

/-!
# The last write wins

A host turned into a counterpart sets every property, so that building from it needs no default and
gives back what the properties hold in the end. In a new counterpart a property has a value once it
was set. Either way, what a property holds is what was written to it last, in whatever order calls
for different properties came.
-/

namespace Counterpart

open Run

variable {V α : Type} {host : Host} {emission : Emission} {held : String → Option V}

/-! ## From hosts to counterparts and back -/

namespace Host

variable {x : ValueRecord V}

/-- The fields of a host record are told apart by what users are shown. -/
theorem IsHost.displayNames_nodup (hx : host.IsHost x) (hemission : host.emission = .ok emission) :
    (x.map fun entry => Naming.displayName entry.1).Nodup := by
  have hnames := Host.displayNames_nodup hemission
  rw [← hx, List.map_map] at hnames
  exact hnames

/-- Every parameter has a field in a host record, by either kind of name. -/
theorem IsHost.exists_value (hx : host.IsHost x) (hemission : host.emission = .ok emission)
    {parameter : Parameter} (hparameter : parameter ∈ host.parameters) :
    ∃ value ∈ x.contents, x.value? parameter.name.value = some value ∧
      x.shown? (Naming.displayName parameter.name.value) = some value := by
  have hname : parameter.name.value ∈ x.map (·.1) := hx ▸ List.mem_map_of_mem hparameter
  obtain ⟨entry, hentry, hsame⟩ := List.mem_map.mp hname
  have hnames : (x.map (·.1)).Nodup := by
    rw [hx, ← names_cells]
    exact cells_nodup_of_emission hemission
  refine ⟨entry.2, List.mem_map_of_mem hentry, ?_, ?_⟩
  · rw [← hsame]
    exact ValueRecord.value?_of_mem hnames hentry
  · rw [← hsame]
    exact ValueRecord.shown?_of_mem (hx.displayNames_nodup hemission) hentry

/-- The host record whose fields hold the given values. -/
def built (host : Host) (held : String → Option V) : ValueRecord V :=
  ValueRecord.holding (host.parameters.map (·.name.value)) held

/-- A host record is made of what its fields hold. -/
theorem IsHost.built_shown? (hx : host.IsHost x) (hemission : host.emission = .ok emission) :
    host.built (x.shown? ·) = x := by
  have hfields := ValueRecord.holding_shown? (hx.displayNames_nodup hemission)
  rwa [hx] at hfields

/-- Where every property has a value, they make a host. -/
theorem isHost_built (hset : ∀ parameter ∈ host.parameters,
      (held (Naming.displayName parameter.name.value)).isSome) : host.IsHost (host.built held) := by
  refine ValueRecord.names_holding fun name hname => ?_
  obtain ⟨parameter, hparameter, rfl⟩ := List.mem_map.mp hname
  exact hset parameter hparameter

/-- A field of the host has the value that its property held. -/
theorem value?_built (hemission : host.emission = .ok emission)
    (hset : ∀ parameter ∈ host.parameters,
      (held (Naming.displayName parameter.name.value)).isSome)
    {parameter : Parameter} (hparameter : parameter ∈ host.parameters) :
    (host.built held).value? parameter.name.value =
      held (Naming.displayName parameter.name.value) := by
  obtain ⟨value, hvalue⟩ := Option.isSome_iff_exists.mp (hset parameter hparameter)
  have hentry : (parameter.name.value, value) ∈ host.built held :=
    List.mem_filterMap.mpr ⟨_, List.mem_map_of_mem hparameter, by rw [hvalue, Option.map_some]⟩
  have hnames : ((host.built held).map (·.1)).Nodup := by
    rw [isHost_built hset, ← names_cells]
    exact cells_nodup_of_emission hemission
  rw [hvalue, ValueRecord.value?_of_mem hnames hentry]

end Host

/-- Parameters that were all set resolve to their values, and nothing happens on the way. -/
theorem resolves_holding {substitution : Substitution} {evaluate : Evaluator V}
    {parameters : List Parameter} (hparameters : ∀ parameter ∈ parameters,
      parameter ∈ host.parameters ∧ (held (Naming.displayName parameter.name.value)).isSome) :
    Resolves substitution evaluate (host.holding held) parameters
      (ValueRecord.holding (parameters.map (·.name.value)) held).reverse [] := by
  induction parameters using List.reverseRecOn with
  | nil => exact .nothing
  | append_singleton earlier parameter ih =>
    obtain ⟨hparameter, hset⟩ := hparameters parameter (by simp)
    obtain ⟨value, hvalue⟩ := Option.isSome_iff_exists.mp hset
    have hearlier := ih fun other hother => hparameters other (List.mem_append_left _ hother)
    have hcell : (host.holding held).value? (Naming.backingField parameter.name.value) =
        some value := by
      rw [← hvalue]
      exact Host.value?_holding hparameter held
    have hresolved := hearlier.set hcell
    simpa [ValueRecord.holding, hvalue] using hresolved

variable [Destructible V]

/-- Building from a counterpart with a value in every property makes a host of these values. -/
theorem Emission.build_holding (hemission : host.emission = .ok emission) (evaluate : Evaluator V)
    (hset : ∀ parameter ∈ host.parameters,
      (held (Naming.displayName parameter.name.value)).isSome) :
    emission.build evaluate Naming.build (host.holding held) =
      ⟨.finished (.ok (host.built held)), (), []⟩ := by
  have hresolves : Resolves host.substitution evaluate (host.holding held) host.parameters
      (host.built held).reverse [] :=
    resolves_holding fun parameter hparameter => ⟨hparameter, hset parameter hparameter⟩
  rw [Emission.build_eq_call hemission, Body.call_of_resolved (host.isCounterpart_holding held)
    (Host.cells_nodup_of_emission hemission) hresolves, List.reverse_reverse]

namespace Emission.Serves

variable (hserves : emission.Serves host) (hemission : host.emission = .ok emission)

include hserves hemission

/-- Fields go into the properties of their names, where there was nothing before. -/
theorem transferAll_holding {parameters : List Parameter}
    (hparameters : ∀ parameter ∈ parameters, parameter ∈ host.parameters)
    (hdistinct : (parameters.map fun parameter => Naming.displayName parameter.name.value).Nodup)
    {receiver : ValueRecord V} (hnames : receiver.map (·.1) = parameters.map (·.name.value))
    (hunset : ∀ parameter ∈ parameters, held (Naming.displayName parameter.name.value) = none) :
    emission.transferAll (parameters.map fun parameter =>
        ⟨host.naming.setter parameter.name.value, parameter.name.value⟩) receiver
        (host.holding held) =
      ⟨.finished (host.holding fun field => (receiver.shown? field).or (held field)), (), []⟩ := by
  induction parameters generalizing receiver held with
  | nil =>
    obtain rfl : receiver = [] := by simpa using hnames
    rfl
  | cons parameter rest ih =>
    obtain ⟨⟨name, value⟩, others, rfl⟩ : ∃ entry others, receiver = entry :: others := by
      cases receiver with
      | nil => simp at hnames
      | cons entry others => exact ⟨entry, others, rfl⟩
    rw [List.map_cons, List.map_cons, List.cons.injEq] at hnames
    obtain ⟨rfl, hothers⟩ := hnames
    rw [List.map_cons, List.nodup_cons] at hdistinct
    obtain ⟨hfresh, hrest⟩ := hdistinct
    have hnone := hunset parameter List.mem_cons_self
    have hvalue : ValueRecord.value? parameter.name.value
        ((parameter.name.value, value) :: others) = some value := by
      simp [ValueRecord.value?]
    have hwithout : ValueRecord.without parameter.name.value
        ((parameter.name.value, value) :: others) = others := by
      simp [ValueRecord.without]
    have hwrite : emission.write (host.naming.setter parameter.name.value) value
        (host.holding held) = _ :=
      hserves.write_holding hemission (hparameters parameter List.mem_cons_self)
        (by simp [hnone]) value
    have hunsetRest : ∀ other ∈ rest, Function.update held
        (Naming.displayName parameter.name.value) (some value)
          (Naming.displayName other.name.value) = none := by
      intro other hother
      rw [Function.update_of_ne]
      · exact hunset other (List.mem_cons_of_mem _ hother)
      · exact fun hsame => hfresh (List.mem_map.mpr ⟨other, hother, hsame⟩)
    -- The other properties still have no value, since no two of them have one name.
    have hlater := ih (fun other hother => hparameters other (List.mem_cons_of_mem _ hother)) hrest
      hothers hunsetRest
    have hfreshEntry : ∀ entry ∈ others,
        Naming.displayName entry.1 ≠ Naming.displayName parameter.name.value := by
      intro entry hentry hsame
      have hname : entry.1 ∈ rest.map (·.name.value) := hothers ▸ List.mem_map_of_mem hentry
      obtain ⟨other, hother, hotherName⟩ := List.mem_map.mp hname
      exact hfresh (List.mem_map.mpr ⟨other, hother, hotherName ▸ hsame⟩)
    have hheld := ValueRecord.shown?_or_update hfreshEntry value held
    rw [List.map_cons, Emission.transferAll, hvalue, hwithout]
    simp only [hwrite, hnone, Ran.unwinding_finished, Ran.andThen_finished, hlater, hheld]
    rfl

/-- A host becomes the counterpart whose properties hold its fields. -/
theorem intoCounterpart_eq {x : ValueRecord V} (hx : host.IsHost x) :
    emission.intoCounterpart host.naming.intoCounterpart x =
      ⟨.finished (host.holding (x.shown? ·)), (), []⟩ := by
  have htransfer : emission.transferAll (host.parameters.map fun parameter =>
        ⟨host.naming.setter parameter.name.value, parameter.name.value⟩) x
        (host.holding fun _ => none) =
      ⟨.finished (host.holding fun field => (x.shown? field).or none), (), []⟩ :=
    hserves.transferAll_holding hemission (fun _ h => h) (Host.names_nodup_of_emission hemission)
      hx fun _ _ => rfl
  rw [Emission.intoCounterpart, hserves.intoCounterpart]
  simp only [hserves.construct_eq, Ran.andThen_finished, Ran.after_nil, List.map_map,
    Host.emptyCells_eq_holding]
  simp only [Option.or_none] at htransfer
  exact htransfer

/-- Changing a host through its counterpart builds what its properties hold in the end. -/
theorem copy_eq {x : ValueRecord V} (hx : host.IsHost x) {action : Action V (CellRecord V) α}
    {answer : α} {events : List (Event V)}
    (haction : action (host.holding (x.shown? ·)) =
      ⟨.finished answer, host.holding held, events⟩)
    (hset : ∀ parameter ∈ host.parameters,
      (held (Naming.displayName parameter.name.value)).isSome) (evaluate : Evaluator V) :
    emission.copy evaluate Naming.copy action x =
      ⟨.finished (answer, .ok (host.built held)), (), events⟩ := by
  rw [Emission.copy, hserves.copy]
  simp only [hserves.intoCounterpart_eq hemission hx, Ran.andThen_finished, List.nil_append,
    Emission.actAndBuild, haction, Ran.unwinding_finished,
    Emission.build_holding hemission evaluate hset, Action.finish_def, Ran.after_mk,
    List.append_nil]

end Emission.Serves

/-- Turn a host into a counterpart and build from it, a number of times. -/
def Emission.roundTrips (emission : Emission) (evaluate : Evaluator V) (into build : Ident) :
    (count : Nat) → ValueRecord V → Ran V Unit (BuildResult V)
  | 0, host => Action.finish (.ok host) ()
  | count + 1, host =>
    (emission.intoCounterpart into host).andThen
      (fun record _ => (emission.build evaluate build record).andThen
        (fun result _ =>
          match result with
          | .ok built => emission.roundTrips evaluate into build count built
          | .error missing => Action.finish (.error missing) ()) id) id

/-- A host comes back unchanged from any number of round trips, and nothing happens on the way. -/
theorem Emission.Serves.roundTrips_eq (hserves : emission.Serves host)
    (hemission : host.emission = .ok emission) {x : ValueRecord V} (hx : host.IsHost x)
    (evaluate : Evaluator V) (count : Nat) :
    emission.roundTrips evaluate host.naming.intoCounterpart Naming.build count x =
      ⟨.finished (.ok x), (), []⟩ := by
  have hset : ∀ parameter ∈ host.parameters,
      (x.shown? (Naming.displayName parameter.name.value)).isSome := by
    intro parameter hparameter
    obtain ⟨value, -, -, hvalue⟩ := hx.exists_value hemission hparameter
    rw [hvalue, Option.isSome_some]
  have hbuild : emission.build evaluate Naming.build (host.holding (x.shown? ·)) =
      ⟨.finished (.ok (host.built (x.shown? ·))), (), []⟩ :=
    Emission.build_holding hemission evaluate hset
  rw [hx.built_shown? hemission] at hbuild
  induction count with
  | zero => rfl
  | succ count ih =>
    simp only [Emission.roundTrips, hserves.intoCounterpart_eq hemission hx, Ran.andThen_finished,
      hbuild, ih, Ran.after_mk, List.append_nil]

/-! ## The last writes -/

namespace Program.Linked

variable {program : Program V} (hlinked : program.Linked) {calm : V → Prop}
variable (hcalm : ∀ value, calm value → Destructible.panics value = false)

include hlinked hcalm

/-- A host that is changed through its counterpart becomes a host again. Each field has the value
that was written to its property last, or else the one from before. -/
theorem copy_accessAll {x : ValueRecord V} (hx : program.host.IsHost x)
    (hvalues : ∀ value ∈ x.contents, calm value) {accesses : List (Access V)}
    (haccesses : ∀ access ∈ accesses, access.KeepsTo calm) :
    ∃ replies built events,
      (∀ evaluate, program.emission.copy evaluate Naming.copy (program.accessAll accesses) x =
        ⟨.finished (replies, .ok built), (), events⟩) ∧
      program.host.IsHost built ∧
      ∀ parameter ∈ program.host.parameters, built.value? parameter.name.value =
        (Access.writes (Naming.displayName parameter.name.value)
          (x.value? parameter.name.value) accesses).getLast?.or
            (x.value? parameter.name.value) := by
  have hheld : ∀ field value, x.shown? field = some value → calm value := by
    intro field value hvalue
    obtain ⟨entry, hentry, rfl⟩ := Option.map_eq_some_iff.mp hvalue
    exact hvalues entry.2 (List.mem_map_of_mem (List.mem_of_find?_eq_some hentry))
  obtain ⟨replies, events, haction⟩ := hlinked.accessAll_holding hcalm haccesses hheld
  have hlast : ∀ parameter ∈ program.host.parameters,
      Access.afterAll accesses (x.shown? ·) (Naming.displayName parameter.name.value) =
        (Access.writes (Naming.displayName parameter.name.value)
          (x.value? parameter.name.value) accesses).getLast?.or (x.value? parameter.name.value) ∧
      (x.value? parameter.name.value).isSome := by
    intro parameter hparameter
    obtain ⟨value, -, hvalue, hshown⟩ := hx.exists_value hlinked.emission_eq hparameter
    rw [Access.afterAll, hshown, hvalue]
    exact ⟨rfl, rfl⟩
  -- The host set every property, and a use never takes a value away, so no default is needed.
  have hset : ∀ parameter ∈ program.host.parameters,
      (Access.afterAll accesses (x.shown? ·)
        (Naming.displayName parameter.name.value)).isSome := by
    intro parameter hparameter
    obtain ⟨hsame, hsome⟩ := hlast parameter hparameter
    rw [hsame, Option.isSome_or, hsome, Bool.or_true]
  refine ⟨replies, program.host.built (Access.afterAll accesses (x.shown? ·)), events,
    hlinked.serves.copy_eq hlinked.emission_eq hx haction hset, Host.isHost_built hset, ?_⟩
  intro parameter hparameter
  rw [Host.value?_built hlinked.emission_eq hset hparameter, (hlast parameter hparameter).1]

/-- In a counterpart that was new, each property holds what was written to it last. -/
theorem accessAll_new {accesses : List (Access V)}
    (haccesses : ∀ access ∈ accesses, access.KeepsTo calm) :
    ∃ replies events, program.accessAll accesses (program.host.holding fun _ => none) =
      ⟨.finished replies, program.host.holding (Access.afterAll accesses fun _ => none), events⟩ := by
  refine hlinked.accessAll_holding hcalm haccesses ?_
  intro field value hvalue
  cases hvalue

/-- After uses of a new counterpart, the getters of a property give what was written to it last. -/
theorem getters_accessAll {accesses : List (Access V)}
    (haccesses : ∀ access ∈ accesses, access.KeepsTo calm) {parameter : Parameter}
    (hparameter : parameter ∈ program.host.parameters) :
    let shown := Naming.displayName parameter.name.value
    let last := (Access.writes shown none accesses).getLast?
    let record := program.host.holding (Access.afterAll accesses fun _ => none)
    program.emission.read (program.host.accessorSignature parameter .get).name record =
        ⟨.finished (readout shown last), record, []⟩ ∧
      ∀ next, (program.emission.lend (program.host.accessorSignature parameter .getMut).name
        (.change next) record).outcome = .finished (readout shown (last.map next)) := by
  have hlast : Access.afterAll accesses (fun _ => none)
      (Naming.displayName parameter.name.value) =
        (Access.writes (Naming.displayName parameter.name.value) none accesses).getLast? :=
    Option.or_none
  refine ⟨?_, fun next => ?_⟩
  · rw [hlinked.serves.read_holding hlinked.emission_eq hparameter, hlast]
  · have hafter : ∀ former, Access.afterAll accesses (fun _ => none)
        (Naming.displayName parameter.name.value) = some former →
          Destructible.panics former = false := by
      intro former hformer
      refine hcalm former (Access.afterAll_keeps haccesses ?_ _ former hformer)
      intro field value hvalue
      cases hvalue
    have hbrought : ∀ value ∈ (Edit.change next).brought,
        Destructible.panics value = false := by simp [Edit.brought]
    obtain ⟨later, hlend⟩ :=
      hlinked.serves.lend_holding hlinked.emission_eq hparameter hafter hbrought
    rw [hlend, hlast]
    rfl

/-- Uses of a counterpart with the same last writes leave it in the same state. -/
theorem state_accessAll_congr {first second : List (Access V)}
    (hfirst : ∀ access ∈ first, access.KeepsTo calm)
    (hsecond : ∀ access ∈ second, access.KeepsTo calm)
    (hsame : ∀ parameter ∈ program.host.parameters,
      (Access.writes (Naming.displayName parameter.name.value) none first).getLast? =
        (Access.writes (Naming.displayName parameter.name.value) none second).getLast?) :
    (program.accessAll first (program.host.holding fun _ => none)).state =
      (program.accessAll second (program.host.holding fun _ => none)).state := by
  obtain ⟨_, _, hfirstAction⟩ := hlinked.accessAll_new hcalm hfirst
  obtain ⟨_, _, hsecondAction⟩ := hlinked.accessAll_new hcalm hsecond
  rw [hfirstAction, hsecondAction]
  refine CellRecord.holding_congr fun name hname => ?_
  obtain ⟨parameter, hparameter, rfl⟩ := List.mem_map.mp hname
  rw [Access.afterAll, Access.afterAll, hsame parameter hparameter]

end Program.Linked

/-- Changing a host through its counterpart gives a host again, whatever the defaults do: none of
them is evaluated. Each field has the value that was written to its property last, or else the one
from before, and a host that is only turned into a counterpart and built again stays the same.

In a new counterpart, those properties have a value that were set, also if they were set to a value
that stands for nothing. Getters give the value that was written last, or else the error with the
name of the property. What can be built depends on the last writes alone. -/
theorem last_write_wins {item : StructItem} {configuration : Configuration}
    {rename : Option (Located Ident)} {meaning : Evaluator V} {program : Program V}
    (hhost : Host.ofStruct item configuration rename = .ok host)
    (hprogram : Program.ofHost host meaning = .ok program) {calm : V → Prop}
    (hcalm : ∀ value, calm value → Destructible.panics value = false) :
    (∀ x : ValueRecord V, host.IsHost x → (∀ value ∈ x.contents, calm value) →
      ∀ accesses : List (Access V), (∀ access ∈ accesses, access.KeepsTo calm) →
        ∃ replies built events,
          (∀ evaluate, program.emission.copy evaluate Naming.copy (program.accessAll accesses) x =
            ⟨.finished (replies, .ok built), (), events⟩) ∧
          host.IsHost built ∧
          ∀ parameter ∈ host.parameters, built.value? parameter.name.value =
            (Access.writes (Naming.displayName parameter.name.value)
              (x.value? parameter.name.value) accesses).getLast?.or
                (x.value? parameter.name.value)) ∧
    (∀ x : ValueRecord V, host.IsHost x → ∀ evaluate count,
      program.emission.roundTrips evaluate host.naming.intoCounterpart Naming.build count x =
        ⟨.finished (.ok x), (), []⟩) ∧
    ∃ start, program.emission.construct Naming.constructor = ⟨.finished start, (), []⟩ ∧
      (∀ accesses : List (Access V), (∀ access ∈ accesses, access.KeepsTo calm) →
        ∃ replies record events,
          program.accessAll accesses start = ⟨.finished replies, record, events⟩ ∧
          ∀ parameter ∈ host.parameters,
            let shown := Naming.displayName parameter.name.value
            let last := (Access.writes shown none accesses).getLast?
            (last.isSome ↔ ∃ value, .set shown value ∈ accesses) ∧
              program.emission.read (host.accessorSignature parameter .get).name record =
                ⟨.finished (readout shown last), record, []⟩ ∧
              ∀ next, (program.emission.lend (host.accessorSignature parameter .getMut).name
                (.change next) record).outcome = .finished (readout shown (last.map next))) ∧
      ∀ first second : List (Access V), (∀ access ∈ first, access.KeepsTo calm) →
        (∀ access ∈ second, access.KeepsTo calm) →
        (∀ parameter ∈ host.parameters,
          (Access.writes (Naming.displayName parameter.name.value) none first).getLast? =
            (Access.writes (Naming.displayName parameter.name.value) none second).getLast?) →
        ∀ evaluate,
          program.emission.build evaluate Naming.build (program.accessAll first start).state =
            program.emission.build evaluate Naming.build (program.accessAll second start).state := by
  obtain ⟨rfl, -, hlinked⟩ := Program.linked_of_ofHost hhost hprogram
  have hserves := hlinked.serves
  have hemission := hlinked.emission_eq
  refine ⟨?_, fun x hx evaluate count => hserves.roundTrips_eq hemission hx evaluate count,
    program.host.holding fun _ => none, ?_, ?_, ?_⟩
  · intro x hx hvalues accesses haccesses
    exact hlinked.copy_accessAll hcalm hx hvalues haccesses
  · rw [hserves.construct_eq, Host.emptyCells_eq_holding]
  · intro accesses haccesses
    obtain ⟨replies, events, haction⟩ := hlinked.accessAll_new hcalm haccesses
    refine ⟨replies, _, events, haction, fun parameter hparameter => ?_⟩
    exact ⟨Access.isSome_getLast?_writes _ accesses,
      hlinked.getters_accessAll hcalm haccesses hparameter⟩
  · intro first second hfirst hsecond hsame evaluate
    rw [hlinked.state_accessAll_congr hcalm hfirst hsecond hsame]

/-- A sample host record. -/
def Sample.chainValues : ValueRecord Sample.Value :=
  [(.plain "first", .watched 1), (.plain "value", .watched 2), (.plain "last", .watched 3)]

/-- Uses of the properties of the sample host: one is set twice, and one is changed in place. -/
def Sample.chainAccesses : List (Access Sample.Value) :=
  [.set "value" (.watched 5), .edit "last" (.change Value.copied), .get "first",
    .set "value" (.watched 7)]

/-- A watched number whose destructor does not panic. -/
def Sample.IsCalm (value : Sample.Value) : Prop := ∃ number : Nat, value = .watched number

/-- In the sample host, the field that was set twice has the later value, and the one that was
changed in place the changed one. A new counterpart that was used in the same way has no value for
the property that was only changed. -/
theorem last_write_chain : ∃ program,
    Program.ofHost Sample.chainHost Sample.chainEvaluate = .ok program ∧
      (∃ replies built events,
        program.emission.copy Sample.chainEvaluate Naming.copy
            (program.accessAll Sample.chainAccesses) Sample.chainValues =
          ⟨.finished (replies, .ok built), (), events⟩ ∧
        built.value? (.plain "first") = some (.watched 1) ∧
        built.value? (.plain "value") = some (.watched 7) ∧
        built.value? (.plain "last") = some (.watched 1003)) ∧
      ∃ start replies record events,
        program.emission.construct Naming.constructor = ⟨.finished start, (), []⟩ ∧
        program.accessAll Sample.chainAccesses start = ⟨.finished replies, record, events⟩ ∧
        program.emission.read (.plain "get_value") record =
          ⟨.finished (.ok (.watched 7)), record, []⟩ ∧
        program.emission.read (.plain "get_last") record =
          ⟨.finished (.error ⟨"last"⟩), record, []⟩ := by
  obtain ⟨emission, hemission⟩ := Sample.exists_emission_chain
  have hprogram : Program.ofHost Sample.chainHost Sample.chainEvaluate =
      .ok ⟨Sample.chainHost, emission, Sample.chainEvaluate⟩ := by
    rw [Program.ofHost, hemission]
    rfl
  have hcalm : ∀ value, Sample.IsCalm value → Destructible.panics value = false := by
    rintro value ⟨number, rfl⟩
    simp [Destructible.panics]
  have hvalues : ∀ value ∈ Sample.chainValues.contents, Sample.IsCalm value := by
    intro value hvalue
    simp only [ValueRecord.contents, Sample.chainValues, List.map_cons, List.map_nil,
      List.mem_cons, List.not_mem_nil, or_false] at hvalue
    rcases hvalue with rfl | rfl | rfl
    · exact ⟨1, rfl⟩
    · exact ⟨2, rfl⟩
    · exact ⟨3, rfl⟩
  have haccesses : ∀ access ∈ Sample.chainAccesses, access.KeepsTo Sample.IsCalm := by
    intro access haccess
    simp only [Sample.chainAccesses, List.mem_cons, List.not_mem_nil, or_false] at haccess
    rcases haccess with rfl | rfl | rfl | rfl
    · exact ⟨5, rfl⟩
    · rintro value ⟨number, rfl⟩
      exact ⟨number + 1000, rfl⟩
    · exact trivial
    · exact ⟨7, rfl⟩
  obtain ⟨hcopy, -, start, hstart, hnew, -⟩ :=
    last_write_wins Sample.ofStruct_chain hprogram hcalm
  obtain ⟨replies, built, events, hrun, -, hfields⟩ :=
    hcopy Sample.chainValues rfl hvalues Sample.chainAccesses haccesses
  obtain ⟨newReplies, record, newEvents, huse, hgetters⟩ := hnew Sample.chainAccesses haccesses
  refine ⟨_, hprogram, ⟨replies, built, events, hrun _, ?_, ?_, ?_⟩,
    start, newReplies, record, newEvents, hstart, huse, ?_, ?_⟩
  · exact hfields (Sample.chainParameter 0 "first" none) (by simp [Sample.chainHost])
  · exact hfields (Sample.chainParameter 1 "value" (some (Sample.chainReference "first")))
      (by simp [Sample.chainHost])
  · exact hfields (Sample.chainParameter 2 "last" none) (by simp [Sample.chainHost])
  · exact (hgetters (Sample.chainParameter 1 "value" (some (Sample.chainReference "first")))
      (by simp [Sample.chainHost])).2.1
  · exact (hgetters (Sample.chainParameter 2 "last" none) (by simp [Sample.chainHost])).2.1

end Counterpart
