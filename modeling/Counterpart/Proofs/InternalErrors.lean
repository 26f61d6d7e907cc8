import Counterpart.Expansion
import Counterpart.Proofs.Blame
import Counterpart.Proofs.MemberTable
import Counterpart.Sample.Chain

/-!
# The expansion never blames itself

A host that a session knows has a table in which every look-up succeeds. What is emitted for it can
therefore be turned down for one reason only, that two members of its counterpart have one name.
All else that users are told was found by a check of their own code. A template that does not fit
user code ends the expansion and is not reported; nothing is claimed here about when that happens.
-/

namespace Counterpart

variable {α β : Type}

/-- All that is wrong with something generated is wrong with annotated code. -/
def Generated.BlamesCode (value : Generated α) : Prop :=
  ∀ found, value = .error (.rejected found) → ∀ diagnostic ∈ found, diagnostic.BlamesCode

/-! ## Emissions -/

namespace Host

/-- Only the counterpart stands beside the host. -/
theorem owner_ne_module {member : Member} (h : member.kind ≠ .counterpart) :
    member.owner ≠ .module := by
  unfold Member.owner MemberKind.owner
  split <;> simp_all

/-- Things that are each there or end the expansion are all there, or one of them ends it. -/
theorem gather_ok_or_broken {found : List (Generated α)}
    (h : ∀ part ∈ found, (∃ value, part = .ok value) ∨ part = .error .brokenTemplate) :
    (∃ values, gather found = .ok values) ∨
      gather found = .error .brokenTemplate ∧ .error .brokenTemplate ∈ found := by
  induction found with
  | nil => exact .inl ⟨[], rfl⟩
  | cons first rest ih =>
    rcases h first List.mem_cons_self with ⟨value, rfl⟩ | rfl
    · rcases ih fun part hpart => h part (List.mem_cons_of_mem _ hpart) with
        ⟨values, hrest⟩ | ⟨hrest, hmem⟩
      · exact .inl ⟨value :: values, by rw [gather, hrest]; rfl⟩
      · exact .inr ⟨by rw [gather, hrest]; rfl, List.mem_cons_of_mem _ hmem⟩
    · exact .inr ⟨rfl, List.mem_cons_self⟩

variable {host : Host}

/-- A body that is made from the table is there or ends the expansion. -/
theorem Numbered.body_ok_or_broken (h : host.Numbered) {member : Member}
    (hmember : member ∈ host.table) (hkind : member.kind ≠ .counterpart) :
    (∃ body, host.body host.table member = .ok body) ∨
      host.body host.table member = .error .brokenTemplate := by
  obtain ⟨condition, body, hbody⟩ := h.exists_provided_body hmember hkind
  rw [hbody]
  cases condition with
  | false => exact .inr rfl
  | true => exact .inl ⟨body, rfl⟩

/-- A member stands for a function unless its body ends the expansion. -/
theorem Numbered.function?_ok_or_broken (h : host.Numbered) {member : Member}
    (hmember : member ∈ host.table) :
    (∃ entry, host.function? host.table member = .ok entry) ∨
      host.function? host.table member = .error .brokenTemplate ∧
        member.kind ≠ .counterpart ∧ host.body host.table member = .error .brokenTemplate := by
  by_cases hkind : member.kind = .counterpart
  -- Kinds are unique in the table, so this is the counterpart itself, which is no function.
  · have hcounterpart : Member.find? host.table member.kind = some host.counterpartMember := by
      rw [hkind]
      rfl
    obtain rfl : member = host.counterpartMember :=
      Option.some.inj ((h.find?_kind hmember).symm.trans hcounterpart)
    exact .inl ⟨none, rfl⟩
  · unfold function?
    split
    · exact .inl ⟨none, rfl⟩
    · rcases h.body_ok_or_broken hmember hkind with ⟨body, hbody⟩ | hbody
      · rw [hbody]
        have howner := owner_ne_module hkind
        cases hplace : member.owner with
        | module => exact absurd hplace howner
        | host => exact .inl ⟨_, rfl⟩
        | counterpart => exact .inl ⟨_, rfl⟩
      · exact .inr ⟨by rw [hbody]; rfl, hkind, hbody⟩

/-- Behind the check for collisions, code is emitted unless the body of a member ends the
expansion. -/
theorem Numbered.emissionOf_table (h : host.Numbered)
    (hcheck : host.checkCollisions host.table = .ok ()) :
    (∃ emission, host.emissionOf host.table = .ok emission) ∨
      host.emissionOf host.table = .error .brokenTemplate ∧
        ∃ member ∈ host.table, member.kind ≠ .counterpart ∧
          host.body host.table member = .error .brokenTemplate := by
  have hparts : ∀ part ∈ host.table.map (host.function? host.table),
      (∃ entry, part = .ok entry) ∨ part = .error .brokenTemplate := by
    intro part hpart
    obtain ⟨member, hmember, rfl⟩ := List.mem_map.mp hpart
    exact (h.function?_ok_or_broken hmember).imp_right And.left
  unfold emissionOf
  rw [hcheck]
  rcases gather_ok_or_broken hparts with ⟨functions, hgather⟩ | ⟨hgather, hmem⟩
  · rw [hgather]
    exact .inl ⟨_, rfl⟩
  · rw [hgather]
    obtain ⟨member, hmember, hbroken⟩ := List.mem_map.mp hmem
    rcases h.function?_ok_or_broken hmember with ⟨entry, hok⟩ | ⟨-, hkind, hbody⟩
    · cases hok.symm.trans hbroken
    · exact .inr ⟨rfl, member, hmember, hkind, hbody⟩

/-- Members are declared unless a template ends the expansion. -/
theorem members_eq_ok (h : host.members ≠ .error .brokenTemplate) :
    host.members = .ok host.declared := by
  unfold members provided at h ⊢
  split at h
  · rw [if_pos ‹_›]
    rfl
  · exact absurd rfl h

/-- What is emitted is made from the table, unless a template of a declaration ends the expansion. -/
theorem emission_eq_emissionOf (h : host.members ≠ .error .brokenTemplate) :
    host.emission = host.emissionOf host.table := by
  rw [emission, members_eq_ok h, declared_eq_table]
  rfl

/-- An emission fails like the check for collisions, unless a template ends the expansion. -/
theorem Numbered.emission_eq_checkCollisions (h : host.Numbered)
    (hfits : host.emission ≠ .error .brokenTemplate) :
    (fun _ => ()) <$> host.emission = host.checkCollisions host.declared := by
  have hmembers : host.members ≠ .error .brokenTemplate := by
    intro hbroken
    refine hfits ?_
    rw [emission, hbroken]
    rfl
  have hemission := emission_eq_emissionOf hmembers
  rw [declared_eq_table]
  rw [hemission] at hfits ⊢
  cases hcheck : host.checkCollisions host.table with
  | error reason =>
    unfold emissionOf
    rw [hcheck]
    rfl
  | ok passed =>
    rcases h.emissionOf_table hcheck with ⟨emission, hok⟩ | ⟨hbroken, -⟩
    · rw [hok]
      rfl
    · exact absurd hbroken hfits

/-- The check for collisions is about names in annotated code. -/
theorem blamesCode_checkCollisions (host : Host) (members : List Member) :
    Generated.BlamesCode (host.checkCollisions members) := by
  intro found hfound diagnostic hdiagnostic
  unfold checkCollisions refuse at hfound
  split at hfound
  · cases hfound
  · cases hfound
    obtain ⟨name, -, rfl⟩ := List.mem_map.mp hdiagnostic
    exact nofun

/-- An emission that is turned down is turned down for annotated code. -/
theorem Numbered.blamesCode_emission (h : host.Numbered) : Generated.BlamesCode host.emission := by
  intro found hfound
  have hcheck : host.checkCollisions host.declared = .error (.rejected found) := by
    rw [← h.emission_eq_checkCollisions (by rw [hfound]; nofun), hfound]
    rfl
  exact blamesCode_checkCollisions host host.declared found hcheck

end Host

/-! ## Sessions -/

namespace Session

/-- A session that came about by registering structs. -/
inductive Reached : Session → Prop
  | empty : Reached .empty
  | register {session later : Session} {item : StructItem} {configuration : Configuration}
      {rename : Option (Located Ident)} {id : Nat} (h : Reached session)
      (hregister : session.register item configuration rename = .ok (id, later)) : Reached later

variable {session : Session}

/-- All hosts of a session passed all checks. -/
theorem Reached.exists_ofStruct (h : session.Reached) :
    ∀ host ∈ session.hosts, ∃ item configuration rename,
      Host.ofStruct item configuration rename = .ok host := by
  induction h with
  | empty => simp [Session.empty]
  | register _ hregister ih =>
    obtain ⟨added, hadded, -, rfl⟩ := register_eq_ok hregister
    intro host hhost
    rcases List.mem_append.mp hhost with hearlier | hlast
    · exact ih host hearlier
    · obtain rfl := List.mem_singleton.mp hlast
      exact ⟨_, _, _, hadded⟩

/-- All hosts of a session have numbered parameters. -/
theorem Reached.numbered (h : session.Reached) {id : Nat} {host : Host}
    (hhost : session.host? id = some host) : host.Numbered := by
  obtain ⟨item, configuration, rename, hstruct⟩ :=
    h.exists_ofStruct host (List.mem_of_getElem? hhost)
  exact Host.numbered_of_ofStruct hstruct

/-- A session turns emissions down for annotated code. -/
theorem Reached.blamesCode_emit (h : session.Reached) (id : Nat) :
    Generated.BlamesCode (session.emit id) := by
  unfold emit
  split
  · next host hhost => exact (h.numbered hhost).blamesCode_emission
  · exact nofun

end Session

/-! ## Whole expansions -/

/-- What is checked as a part of an expansion fails as it did before. -/
theorem Checked.BlamesCode.generated {value : Checked α} (h : Checked.BlamesCode value) :
    Generated.BlamesCode (value.mapError .rejected) := by
  intro found hfound
  cases value with
  | ok answer => cases hfound
  | error diagnostics =>
    cases hfound
    exact h

/-- What is gathered has the diagnostics of its parts. -/
theorem Host.blamesCode_gather {found : List (Generated α)}
    (h : ∀ part ∈ found, Generated.BlamesCode part) : Generated.BlamesCode (gather found) := by
  induction found with
  | nil => exact nofun
  | cons first rest ih =>
    have hfirst := h first List.mem_cons_self
    have hrest := ih fun part hpart => h part (List.mem_cons_of_mem _ hpart)
    intro diagnostics hgather diagnostic hdiagnostic
    unfold gather at hgather
    split at hgather
    · cases hgather
    · split at hgather <;> cases hgather
      · next later hlater =>
        rcases List.mem_append.mp hdiagnostic with hearly | hlate
        · exact hfirst _ rfl diagnostic hearly
        · exact hrest later hlater diagnostic hlate
      · exact hfirst _ rfl diagnostic hdiagnostic
    · cases hlater : gather rest with
      | ok values =>
        rw [hlater] at hgather
        cases hgather
      | error reason =>
        rw [hlater] at hgather
        cases hgather
        exact hrest _ hlater diagnostic hdiagnostic

namespace Expansion

/-- A part of an expansion that reports annotated code only, and registers structs only. -/
def Walk.BlamesCode (walk : Walk α) : Prop :=
  ∀ session : Session, session.Reached →
    (walk.outcome session).2.Reached ∧ Generated.BlamesCode (walk.outcome session).1

theorem Walk.blamesCode_pure (value : α) : Walk.BlamesCode (pure value) :=
  fun _ hreached => ⟨hreached, nofun⟩

/-- Parts that follow each other keep to it together. -/
theorem Walk.BlamesCode.bind {walk : Walk α} (h : walk.BlamesCode) {next : α → Walk β}
    (hnext : ∀ value, (next value).BlamesCode) : Walk.BlamesCode (walk >>= next) := by
  intro session hreached
  obtain ⟨hlater, hblames⟩ := h session hreached
  rw [Walk.outcome_bind]
  rcases houtcome : walk.outcome session with ⟨reason | value, later⟩
  · rw [houtcome] at hlater hblames
    exact ⟨hlater, fun found hfound => hblames found (by simpa using hfound)⟩
  · rw [houtcome] at hlater
    exact hnext value later hlater

theorem blamesCode_ofChecked {value : Checked α} (h : Checked.BlamesCode value) :
    (ofChecked value).BlamesCode :=
  fun _ hreached => ⟨hreached, h.generated⟩

theorem blamesCode_registered (item : StructItem) (configuration : Configuration)
    (rename : Option (Located Ident)) : (registered item configuration rename).BlamesCode := by
  intro session hreached
  rw [registered, Walk.outcome_mk]
  cases hregister : session.register item configuration rename with
  | ok answer => exact ⟨hreached.register hregister, nofun⟩
  | error diagnostics =>
    have hstruct : Checked.BlamesCode (session.register item configuration rename) :=
      ((Host.grounded_ofStruct item configuration rename).bind fun _ _ =>
        Checked.grounded_pure _).blamesCode
    rw [hregister] at hstruct
    refine ⟨hreached, fun found hfound => ?_⟩
    cases hfound
    exact hstruct

theorem blamesCode_emitted (id : Nat) : (emitted id).BlamesCode :=
  fun _ hreached => ⟨hreached, hreached.blamesCode_emit id⟩

theorem grounded_moduleConfiguration (configuration : Configuration)
    (arguments : MarkerArguments) :
    Checked.Grounded (moduleConfiguration configuration arguments) := by
  unfold moduleConfiguration
  split
  · exact Checked.grounded_fail (by nofun) _
  · exact Checked.grounded_ok _

theorem grounded_innerConfiguration (configuration : Configuration)
    (marker : Option Attribute) :
    Checked.Grounded (innerConfiguration configuration marker) := by
  unfold innerConfiguration
  split
  · exact Checked.grounded_ok _
  · next marker =>
    exact (MarkerArguments.grounded_ofMarker marker).bind fun arguments _ =>
      grounded_moduleConfiguration configuration arguments

theorem blamesCode_emissionOf (configuration : Configuration) (arguments : MarkerArguments)
    (item : Item) : (emissionOf configuration arguments item).BlamesCode :=
  (blamesCode_ofChecked item.grounded_asHost.blamesCode).bind fun struct =>
    (blamesCode_registered struct (configuration.overriding arguments) arguments.rename).bind
      blamesCode_emitted

theorem blamesCode_ofMarked (configuration : Configuration) (marker : Attribute) (item : Item) :
    (ofMarked configuration marker item).BlamesCode :=
  (blamesCode_ofChecked (MarkerArguments.grounded_ofMarker marker).blamesCode).bind fun arguments =>
    (blamesCode_emissionOf configuration arguments item).bind fun _ => Walk.blamesCode_pure _

theorem blamesCode_ofInner_leaf (configuration : Configuration) {item : Item}
    (h : item.isModule = false) : (ofInner configuration item).BlamesCode := by
  rw [ofInner_of_isModule_eq_false h]
  split
  · exact Walk.blamesCode_pure _
  · exact blamesCode_ofMarked configuration _ _

mutual

/-- An item inside of a module is expanded without blaming the expansion. -/
theorem blamesCode_ofInner (configuration : Configuration) :
    ∀ item, (ofInner configuration item).BlamesCode
  | .outlineModule attributes head => by
    unfold ofInner
    exact Walk.blamesCode_pure _
  | .inlineModule attributes head opening closing content => by
    unfold ofInner
    have hinner := grounded_innerConfiguration configuration
      ((Attribute.takeMarker? attributes).map (·.1))
    refine (blamesCode_ofChecked hinner.blamesCode).bind fun inner => ?_
    refine Walk.BlamesCode.bind ?_ fun items => Walk.blamesCode_pure _
    -- The items of the module register their structs in the session of those before the module.
    intro session hreached
    obtain ⟨hlater, hparts⟩ := blamesCode_ofInners inner content session hreached
    exact ⟨hlater, Host.blamesCode_gather hparts⟩
  | .record item => blamesCode_ofInner_leaf configuration rfl
  | .enumeration item => blamesCode_ofInner_leaf configuration rfl
  | .unionType item => blamesCode_ofInner_leaf configuration rfl
  | .other item => blamesCode_ofInner_leaf configuration rfl
  | .verbatim tokens => blamesCode_ofInner_leaf configuration rfl

/-- So are all items of a module. -/
theorem blamesCode_ofInners (configuration : Configuration) :
    ∀ items (session : Session), session.Reached →
      ((ofInners configuration items).run session).2.Reached ∧
        ∀ part ∈ ((ofInners configuration items).run session).1, Generated.BlamesCode part
  | [], session, hreached => ⟨hreached, nofun⟩
  | item :: rest, session, hreached => by
    obtain ⟨hlater, hfirst⟩ := blamesCode_ofInner configuration item session hreached
    obtain ⟨hlast, hrest⟩ := blamesCode_ofInners configuration rest _ hlater
    exact ⟨hlast, List.forall_mem_cons.mpr ⟨hfirst, hrest⟩⟩

end

theorem blamesCode_ofOuter (base : Configuration) (arguments : MarkerArguments) (item : Item) :
    (ofOuter base arguments item).BlamesCode := by
  have hmodule := (grounded_moduleConfiguration base arguments).blamesCode
  unfold ofOuter
  split
  · refine (blamesCode_ofChecked hmodule).bind fun inner => ?_
    refine Walk.BlamesCode.bind ?_ fun items => Walk.blamesCode_pure _
    intro session hreached
    obtain ⟨hlater, hparts⟩ := blamesCode_ofInners inner _ session hreached
    exact ⟨hlater, Host.blamesCode_gather hparts⟩
  · exact (blamesCode_ofChecked hmodule).bind fun _ =>
      blamesCode_ofChecked (Checked.grounded_fail (by nofun) _).blamesCode
  · exact (blamesCode_emissionOf base arguments item).bind fun _ => Walk.blamesCode_pure _

/-- Nothing that is generated for annotated code is turned down for a fault of the expansion. -/
theorem blamesCode_generated (base : Configuration) (arguments : List TokenTree) (item : Item) :
    Generated.BlamesCode (generated base arguments item) := by
  unfold generated
  have harguments := (MarkerArguments.grounded_ofTokens arguments).blamesCode.generated
  cases hread : MarkerArguments.ofTokens arguments with
  | error diagnostics =>
    rw [hread] at harguments
    intro found hfound
    exact harguments found (by simpa [Except.mapError, bind, Except.bind] using hfound)
  | ok arguments => exact (blamesCode_ofOuter base arguments item .empty .empty).2

end Expansion

/-! ## The members of a registered host -/

/-- For a host that a session knows, unless a template ends the expansion: its table has one member
of every kind, in order, a body is made for every member but the counterpart, and code is emitted
exactly if the names of the counterpart's members do not collide, with the same diagnostics if they
do. No diagnostic of an emission blames the expansion itself, and neither does any other that an
annotated item is turned down with. -/
theorem internal_errors_unreachable {session : Session} (hreached : session.Reached) {id : Nat}
    {host : Host} (hhost : session.host? id = some host) :
    (host.members ≠ .error .brokenTemplate → ∃ members, host.members = .ok members ∧
      members.map (·.kind) = Host.kindsFor host.parameters.length ∧
      (∀ member ∈ members, member.kind ≠ .counterpart →
        host.body members member ≠ .error .brokenTemplate →
          ∃ body, host.body members member = .ok body) ∧
      (session.emit id ≠ .error .brokenTemplate →
        (fun _ => ()) <$> session.emit id = host.checkCollisions members)) ∧
    Generated.BlamesCode (session.emit id) ∧
    ∀ base arguments item, Generated.BlamesCode (Expansion.generated base arguments item) := by
  have hnumbered := hreached.numbered hhost
  have hemit : session.emit id = host.emission := by rw [Session.emit, hhost]
  refine ⟨fun hfits => ?_, hreached.blamesCode_emit id, Expansion.blamesCode_generated⟩
  refine ⟨host.declared, Host.members_eq_ok hfits, ?_, ?_, ?_⟩
  · rw [Host.declared_eq_table]
    exact hnumbered.kinds_table
  · rw [Host.declared_eq_table]
    intro member hmember hkind hbody
    exact (hnumbered.body_ok_or_broken hmember hkind).resolve_right hbody
  · rw [hemit]
    exact hnumbered.emission_eq_checkCollisions

namespace Sample

/-- The session in which the sample struct is registered. -/
def chainSession : Session := ⟨[chainHost]⟩

/-- It is reached by registering the sample struct. -/
theorem reached_chainSession : chainSession.Reached := by
  have hregister : Session.empty.register chain .standard none = .ok (0, chainSession) := by
    rw [Session.register, ofStruct_chain]
    rfl
  exact .register .empty hregister

end Sample

/-- The sample struct has a table of fifteen members, among which there are no collisions. -/
theorem members_chain : Sample.chainSession.host? 0 = some Sample.chainHost ∧
    ∃ members, Sample.chainHost.members = .ok members ∧
      members.map (·.kind) = Host.kindsFor 3 ∧ Sample.chainHost.checkCollisions members = .ok () := by
  obtain ⟨emission, hemission⟩ := Sample.exists_emission_chain
  have hemit : Sample.chainSession.emit 0 = .ok emission := hemission
  have hfits : Sample.chainHost.members ≠ .error .brokenTemplate := by
    intro hbroken
    rw [Host.emission, hbroken] at hemission
    cases hemission
  have hhost : Sample.chainSession.host? 0 = some Sample.chainHost := rfl
  obtain ⟨hmembers, -, -⟩ := internal_errors_unreachable Sample.reached_chainSession hhost
  obtain ⟨members, hok, hkinds, -, hcollisions⟩ := hmembers hfits
  refine ⟨hhost, members, hok, hkinds, ?_⟩
  rw [← hcollisions (by rw [hemit]; nofun), hemit]
  rfl

end Counterpart
