import Counterpart.Proofs.FunctionCustody

/-!
# Every value is in one place

A bench holds any number of hosts and counterparts of a program. Each step with them accounts for
all values, and so does any sequence of steps: a value that was given to the generated code is held
by one host or one counterpart, or its destructor ran, and it ran at most once. When all hosts and
counterparts are gone, it ran exactly once. Defaults that leave the function around them, by `return`
or `?`, are left out.
-/

namespace Counterpart

open Run Run.Event

variable {V ι : Type} [DecidableEq ι] {identity : V → ι}
variable {host : Host} {evaluate : Evaluator V} {program : Program V} {bench : Bench V}

namespace Bench

/-- The values that are held on a bench. -/
def contents (bench : Bench V) : List V :=
  (bench.counterparts.flatMap fun entry => CellRecord.contents entry.2)
    ++ bench.hosts.flatMap fun entry => ValueRecord.contents entry.2

/-- A bench for a host: what is on it has the shape of the host and of its counterparts. -/
structure IsBench (host : Host) (bench : Bench V) : Prop where
  counterparts : ∀ entry ∈ bench.counterparts, host.IsCounterpart entry.2
  hosts : ∀ entry ∈ bench.hosts, host.IsHost entry.2

@[simp] theorem contents_empty : contents (empty : Bench V) = [] := rfl

theorem isBench_empty (host : Host) : IsBench host (empty : Bench V) := ⟨nofun, nofun⟩

/-! ## Places -/

/-- What entries hold is what the one at a place holds and what the others hold. -/
theorem settled_entries {R : Type} (own : R → List V) (place : Nat) (entries : List (Nat × R)) :
    Settled identity (entries.flatMap fun entry => own entry.2) []
      ((at? place entries).toList.flatMap own
        ++ (remove place entries).flatMap fun entry => own entry.2) := by
  rw [settled_nil]
  intro x
  induction entries with
  | nil => rfl
  | cons entry rest ih =>
    by_cases hplace : entry.1 = place
    · simp [at?, remove, hplace]
    · have hat : at? place (entry :: rest) = at? place rest := by simp [at?, hplace]
      have hremove : remove place (entry :: rest) = entry :: remove place rest := by
        simp [remove, hplace]
      rw [hat, hremove]
      simp only [List.flatMap_cons, tally_append] at ih ⊢
      omega

/-- What is at a place is one of the entries. -/
theorem mem_of_at? {R : Type} {place : Nat} {entries : List (Nat × R)} {found : R}
    (h : at? place entries = some found) : ∃ entry ∈ entries, entry.2 = found := by
  obtain ⟨entry, hfind, rfl⟩ := Option.map_eq_some_iff.mp h
  exact ⟨entry, List.mem_of_find?_eq_some hfind, rfl⟩

theorem mem_of_mem_remove {R : Type} {place : Nat} {entries : List (Nat × R)} {entry : Nat × R}
    (h : entry ∈ remove place entries) : entry ∈ entries := List.mem_of_mem_eraseP h

theorem counterpartContents_eq (place : Nat) (bench : Bench V) :
    bench.counterpartContents place =
      (at? place bench.counterparts).toList.flatMap CellRecord.contents := by
  unfold counterpartContents
  cases at? place bench.counterparts <;> simp

theorem hostContents_eq (place : Nat) (bench : Bench V) :
    bench.hostContents place = (at? place bench.hosts).toList.flatMap ValueRecord.contents := by
  unfold hostContents
  cases at? place bench.hosts <;> simp

variable (identity) in
/-- The values on a bench are those of the counterpart at a place and those on the bench without
it. -/
theorem settled_withoutCounterpart (place : Nat) (bench : Bench V) :
    Settled identity bench.contents []
      (bench.counterpartContents place ++ (bench.withoutCounterpart place).contents) := by
  have hentries : Settled identity _ [] _ :=
    settled_entries CellRecord.contents place bench.counterparts
  rw [counterpartContents_eq, contents, contents, withoutCounterpart, ← List.append_assoc]
  exact hentries.frame _

variable (identity) in
/-- The values on a bench are those of the host at a place and those on the bench without it. -/
theorem settled_withoutHost (place : Nat) (bench : Bench V) :
    Settled identity bench.contents []
      (bench.hostContents place ++ (bench.withoutHost place).contents) := by
  have hentries : Settled identity _ [] _ :=
    settled_entries ValueRecord.contents place bench.hosts
  rw [settled_nil] at hentries ⊢
  intro x
  have hx := hentries x
  rw [hostContents_eq, contents, contents, withoutHost]
  simp only [tally_append] at hx ⊢
  omega

namespace IsBench

variable (hbench : IsBench host bench)

include hbench

/-- The counterpart at a place is one of the host. -/
theorem isCounterpart {place : Nat} {record : CellRecord V}
    (h : at? place bench.counterparts = some record) : host.IsCounterpart record := by
  obtain ⟨entry, hentry, rfl⟩ := mem_of_at? h
  exact hbench.counterparts entry hentry

theorem isHost {place : Nat} {record : ValueRecord V} (h : at? place bench.hosts = some record) :
    host.IsHost record := by
  obtain ⟨entry, hentry, rfl⟩ := mem_of_at? h
  exact hbench.hosts entry hentry

theorem withoutCounterpart (place : Nat) : IsBench host (bench.withoutCounterpart place) :=
  ⟨fun entry hentry => hbench.counterparts entry (mem_of_mem_remove hentry), hbench.hosts⟩

theorem withoutHost (place : Nat) : IsBench host (bench.withoutHost place) :=
  ⟨hbench.counterparts, fun entry hentry => hbench.hosts entry (mem_of_mem_remove hentry)⟩

/-- A further counterpart may stand at a place that was emptied. -/
theorem addCounterpart (place : Nat) {record : CellRecord V} (hrecord : host.IsCounterpart record) :
    IsBench host
      { bench with counterparts := (place, record) :: remove place bench.counterparts } := by
  refine ⟨fun entry hentry => ?_, hbench.hosts⟩
  rcases List.mem_cons.mp hentry with rfl | hmem
  · exact hrecord
  · exact hbench.counterparts entry (mem_of_mem_remove hmem)

theorem addHost (place : Nat) {record : ValueRecord V} (hrecord : host.IsHost record) :
    IsBench host { bench with hosts := (place, record) :: remove place bench.hosts } := by
  refine ⟨hbench.counterparts, fun entry hentry => ?_⟩
  rcases List.mem_cons.mp hentry with rfl | hmem
  · exact hrecord
  · exact hbench.hosts entry (mem_of_mem_remove hmem)

end IsBench

/-! ## Steps -/

/-- A member of the table is called by its own name. -/
theorem calling_eq (hlinked : program.Linked) (kind : MemberKind) {member : Member}
    (hmember : member ∈ program.host.table) (hkind : member.kind = kind)
    (next : Ident → Action V (Bench V) (Reply V)) :
    calling program kind next = next member.name := by
  rw [calling, ← hkind, hlinked.functionName?_kind hmember]

variable [Destructible V]

/-- Code that does not look at the bench leaves it to the code behind it. -/
theorem accounts_outside {α : Type} {held : List V} {valid : α → Prop} {kept : α → List V}
    {ran : Ran V Unit α} (hran : ran.Yields identity held valid kept) (hbench : IsBench host bench)
    {next : α → Action V (Bench V) (Reply V)}
    (hnext : ∀ value, valid value → (next value bench).Keeps identity
      (kept value ++ bench.contents) (IsBench host) contents) :
    ((outside ran >>= next) bench).Keeps identity (held ++ bench.contents) (IsBench host)
      contents := by
  have houtside : (outside ran bench).Accounts identity (held ++ bench.contents)
      (fun answer after => (∀ value, answer = some value → valid value) ∧ after = bench)
      fun answer after => answer.toList.flatMap kept ++ after.contents :=
    (hran.frame bench.contents).withState fun _ hvalid => ⟨⟨hvalid, rfl⟩, fun _ => rfl⟩
  refine houtside.andThen ?_ ?_
  · rintro value after ⟨hvalid, rfl⟩
    exact (hnext value (hvalid value rfl)).of_held fun x => by simp
  · rintro after ⟨-, rfl⟩
    exact ⟨hbench, fun x => rfl⟩

/-- A counterpart is taken from its place, if there is one. -/
theorem accounts_withTakenCounterpart (hbench : IsBench host bench) (place : Nat)
    {next : CellRecord V → Action V (Bench V) (Reply V)}
    (hnext : ∀ record rest, host.IsCounterpart record → IsBench host rest →
      (next record rest).Keeps identity (CellRecord.contents record ++ rest.contents)
        (IsBench host) contents) :
    (withTakenCounterpart place next bench).Keeps identity bench.contents
      (IsBench host) contents := by
  have hwithout := settled_withoutCounterpart identity place bench
  unfold withTakenCounterpart
  split
  · exact Ran.accounts_finished hbench fun x => rfl
  · next record hrecord =>
    have htaken := hnext record _ (hbench.isCounterpart hrecord) (hbench.withoutCounterpart place)
    refine htaken.of_held ?_
    simpa [counterpartContents, hrecord] using hwithout

/-- A host is taken from its place, if there is one. -/
theorem accounts_withTakenHost (hbench : IsBench host bench) (place : Nat)
    {next : ValueRecord V → Action V (Bench V) (Reply V)}
    (hnext : ∀ record rest, host.IsHost record → IsBench host rest →
      (next record rest).Keeps identity (record.contents ++ rest.contents)
        (IsBench host) contents) :
    (withTakenHost place next bench).Keeps identity bench.contents (IsBench host) contents := by
  have hwithout := settled_withoutHost identity place bench
  unfold withTakenHost
  split
  · exact Ran.accounts_finished hbench fun x => rfl
  · next record hrecord =>
    have htaken := hnext record _ (hbench.isHost hrecord) (hbench.withoutHost place)
    refine htaken.of_held ?_
    simpa [hostContents, hrecord] using hwithout

/-- A counterpart that is used stays at its place. -/
theorem accounts_onCounterpart (hbench : IsBench host bench) (place : Nat)
    {action : Action V (CellRecord V) (Reply V)}
    (haction : ∀ record, host.IsCounterpart record →
      (action record).Keeps identity (CellRecord.contents record)
        host.IsCounterpart CellRecord.contents) :
    (onCounterpart place action bench).Keeps identity bench.contents (IsBench host) contents := by
  have hwithout := settled_withoutCounterpart identity place bench
  unfold onCounterpart
  split
  · exact Ran.accounts_finished hbench fun x => rfl
  · next record hrecord =>
    have hused := (haction record (hbench.isCounterpart hrecord)).frame
      (bench.withoutCounterpart place).contents
    refine (hused.withState ?_).of_held ?_
    · intro answer hafter
      refine ⟨hbench.addCounterpart place hafter, fun x => ?_⟩
      simp [contents, withoutCounterpart]
    · simpa [counterpartContents, hrecord] using hwithout

/-- Dropping what was taken off a bench leaves the bench. -/
theorem accounts_dropping {held former : List V} (hbench : IsBench host bench)
    (hheld : Settled identity held [] (former ++ bench.contents)) :
    (Action.drop former bench : Ran V (Bench V) Unit).Keeps identity held
      (IsBench host) contents := by
  refine (((Action.accounts_drop former bench).frame bench.contents).imp ?_).of_held hheld
  rintro answer after rfl
  exact ⟨hbench, fun x => rfl⟩

/-- A counterpart that is put at a place stays there, and the one before is dropped. -/
theorem accounts_putCounterpart (hbench : IsBench host bench) (place : Nat)
    {record : CellRecord V} (hrecord : host.IsCounterpart record) :
    (putCounterpart place record bench).Keeps identity
      (CellRecord.contents record ++ bench.contents) (IsBench host) contents := by
  refine accounts_dropping (hbench.addCounterpart place hrecord) ?_
  have hwithout := settled_withoutCounterpart identity place bench
  rw [settled_nil] at hwithout ⊢
  intro x
  have hx := hwithout x
  simp only [contents, withoutCounterpart, List.flatMap_cons, tally_append] at hx ⊢
  omega

/-- A host that is put at a place stays there, and the one before is dropped. -/
theorem accounts_putHost (hbench : IsBench host bench) (place : Nat) {record : ValueRecord V}
    (hrecord : host.IsHost record) :
    (putHost place record bench).Keeps identity (record.contents ++ bench.contents)
      (IsBench host) contents := by
  refine accounts_dropping (hbench.addHost place hrecord) ?_
  have hwithout := settled_withoutHost identity place bench
  rw [settled_nil] at hwithout ⊢
  intro x
  have hx := hwithout x
  simp only [contents, withoutHost, List.flatMap_cons, tally_append] at hx ⊢
  omega

/-- A counterpart that was made is put at a place. -/
theorem accounts_making (hbench : IsBench host bench) (place : Nat) {held : List V}
    {ran : Ran V Unit (CellRecord V)}
    (hran : ran.Yields identity held host.IsCounterpart CellRecord.contents) :
    ((do
      let record ← outside ran
      putCounterpart place record
      pure .done : Action V (Bench V) (Reply V)) bench).Keeps identity (held ++ bench.contents)
        (IsBench host) contents :=
  accounts_outside hran hbench fun _ hrecord =>
    (accounts_putCounterpart hbench place hrecord).answer fun _ => Reply.done

/-- What was built is put at a place, if there is a host. -/
theorem accounts_keepBuilt (hbench : IsBench host bench) (place : Nat)
    (replies : List (Reply V)) {result : BuildResult V} (hresult : host.IsBuilt result) :
    (keepBuilt place replies result bench).Keeps identity
      (Body.builtContents result ++ bench.contents) (IsBench host) contents := by
  cases result with
  | ok built =>
    exact (accounts_putHost hbench place (hresult built rfl)).answer
      fun _ => Reply.built replies (.ok built)
  | error missing => exact Ran.accounts_finished hbench fun x => rfl

/-- A host that was built through a counterpart is put at a place. -/
theorem accounts_building (hbench : IsBench host bench) (place : Nat) {held : List V}
    {ran : Ran V Unit (List (Reply V) × BuildResult V)}
    (hran : ran.Yields identity held (fun pair => host.IsBuilt pair.2)
      fun pair => Body.builtContents pair.2) :
    ((do
      let (replies, result) ← outside ran
      keepBuilt place replies result : Action V (Bench V) (Reply V)) bench).Keeps identity
        (held ++ bench.contents) (IsBench host) contents :=
  accounts_outside hran hbench fun pair hresult =>
    accounts_keepBuilt hbench place pair.1 hresult

end Bench

/-- A step leaves the identity of a value alone that it changes in place. -/
def Step.Preserves (identity : V → ι) : Step V → Prop
  | .access _ use => use.Preserves identity
  | .copy _ _ accesses => ∀ access ∈ accesses, access.Preserves identity
  | .create _ accesses => ∀ access ∈ accesses, access.Preserves identity
  | _ => True

namespace Bench

variable [Destructible V]

/-- Every step accounts for what is on the bench. -/
theorem accounts_run (hlinked : program.Linked)
    (hdefaults : program.host.DefaultsAccount identity program.evaluate) {step : Step V}
    (hstep : step.Preserves identity) (hbench : IsBench program.host bench) :
    (run program step bench).Keeps identity bench.contents (IsBench program.host) contents := by
  obtain ⟨hempty, hcontents⟩ := program.host.isCounterpart_emptyCells (V := V)
  have hconstruct : (program.emission.construct Naming.constructor).Yields identity []
      program.host.IsCounterpart CellRecord.contents := by
    rw [hlinked.serves.construct_eq]
    exact Ran.yields_finished hempty fun x => by simp [hcontents]
  cases step with
  | construct place =>
    have hmember : Host.constructorMember ∈ program.host.table := by simp [Host.table]
    rw [run, calling_eq hlinked .constructor hmember rfl]
    exact accounts_making hbench place hconstruct
  | default place =>
    rw [run, Emission.makeDefault, hlinked.serves.constructor_eq]
    exact accounts_making hbench place hconstruct
  | dropCounterpart place =>
    exact (accounts_dropping (hbench.withoutCounterpart place)
      (settled_withoutCounterpart identity place bench)).answer fun _ => Reply.done
  | dropHost place =>
    exact (accounts_dropping (hbench.withoutHost place)
      (settled_withoutHost identity place bench)).answer fun _ => Reply.done
  | into source place =>
    rw [run, calling_eq hlinked .intoCounterpart program.host.intoCounterpartMember_mem_table rfl]
    refine accounts_withTakenHost hbench source fun record rest hrecord hrest => ?_
    exact accounts_making hrest place (hlinked.serves.accounts_intoCounterpart hrecord)
  | access place access =>
    exact accounts_onCounterpart hbench place fun record hrecord =>
      hlinked.accounts_access hrecord hstep
  | build source place =>
    rw [run, calling_eq hlinked .build program.host.buildMember_mem_table rfl]
    refine accounts_withTakenCounterpart hbench source fun record rest hrecord hrest => ?_
    have hbuild := Emission.accounts_build hlinked.emission_eq hdefaults hrecord
    exact accounts_outside hbuild hrest fun _ hresult => accounts_keepBuilt hrest place [] hresult
  | copy source place accesses =>
    have hmember : program.host.copyMember ∈ program.host.table := by simp [Host.table]
    rw [run, calling_eq hlinked .copy hmember rfl]
    refine accounts_withTakenHost hbench source fun record rest hrecord hrest => ?_
    exact accounts_building hrest place (hlinked.serves.accounts_copy hlinked.emission_eq
      hdefaults hrecord fun record hrecord => hlinked.accounts_accessAll hstep hrecord)
  | create place accesses =>
    have hmember : program.host.factoryMember ∈ program.host.table := by simp [Host.table]
    rw [run, calling_eq hlinked .factory hmember rfl]
    exact accounts_building hbench place (hlinked.serves.accounts_create hlinked.emission_eq
      hdefaults fun record hrecord => hlinked.accounts_accessAll hstep hrecord)

/-- For every generated host, whatever is done to however many hosts and counterparts, every step
has a meaning and every value is owned once. Of every identity, as many values were received as are
held by counterparts, are held by hosts, and were dropped. Once all hosts and counterparts are gone,
every value that was received was dropped, and once. Only the destructor of a dropped value that
panics during unwinding ends the process; also then no value was dropped more often than it was
received. -/
theorem received_eq_held_add_dropped {item : StructItem} {configuration : Configuration}
    {rename : Option (Located Ident)}
    (hhost : Host.ofStruct item configuration rename = .ok host)
    (hprogram : Program.ofHost host evaluate = .ok program)
    (hdefaults : host.DefaultsAccount identity evaluate) {steps : List (Step V)}
    (hsteps : ∀ step ∈ steps, step.Preserves identity) :
    let history := History.ofSteps (run program) steps empty
    .undefined ∉ history.outcomes ∧
      (.aborted ∈ history.outcomes →
        ∃ value ∈ droppedIn history.events, Destructible.panicsAgain value = true) ∧
      (∀ x, tally identity x (droppedIn history.events) ≤
        tally identity x (receivedIn history.events)) ∧
      (.aborted ∉ history.outcomes →
        (∀ x, tally identity x (receivedIn history.events) =
          tally identity x
              (history.state.counterparts.flatMap fun entry => CellRecord.contents entry.2)
            + tally identity x
              (history.state.hosts.flatMap fun entry => ValueRecord.contents entry.2)
            + tally identity x (droppedIn history.events)) ∧
        (history.state.counterparts = [] → history.state.hosts = [] →
          ∀ x, tally identity x (droppedIn history.events) =
            tally identity x (receivedIn history.events))) := by
  obtain ⟨rfl, rfl, hlinked⟩ := Program.linked_of_ofHost hhost hprogram
  have haccounts : (History.ofSteps (run program) steps empty).Accounts identity
      (contents (empty : Bench V)) (IsBench program.host) contents fun _ => [] := by
    refine History.accounts (fun step hstep bench hbench => ?_) (isBench_empty program.host)
    refine (accounts_run hlinked hdefaults (hsteps step hstep) hbench).imp ?_
    intro answer after hafter
    refine ⟨hafter, fun x => ?_⟩
    cases answer <;> simp
  refine ⟨haccounts.meaningful, haccounts.fatal, fun x => ?_, fun hgoes => ?_⟩
  · have hcovered := haccounts.covered x
    rw [History.handedOut_nothing] at hcovered
    simpa using hcovered
  · have hall (x : ι) := haccounts.settled hgoes x
    simp only [History.handedOut_nothing, List.append_nil, contents_empty, tally_nil,
      Nat.zero_add] at hall
    simp only [contents, tally_append] at hall
    refine ⟨hall, fun hcounterparts hhosts x => ?_⟩
    have hx := hall x
    rw [hcounterparts, hhosts] at hx
    simp only [List.flatMap_nil, tally_nil, Nat.zero_add] at hx
    exact hx.symm

end Bench

namespace Sample

/-- Steps in which the destructor of a replaced value panics, a build fails midway, and a closure
panics. -/
def chainSteps : List (Step Value) :=
  [.construct 0, .access 0 (.set "first" (.watched 1)), .access 0 (.set "last" (.watched (-3))),
    .access 0 (.set "last" (.watched 5)), .build 0 0,
    .create 1 [.set "first" (.watched 7), .edit "first" (.replace (.watched 8)), .panic]]

/-- The default of the sample host works on the value of the first field. -/
theorem defaultsAccount_chain : chainHost.DefaultsAccount id chainEvaluate := by
  intro earlier parameter later hplace expression hfallback locals hlocals
  cases earlier with
  | nil =>
    obtain ⟨rfl, -⟩ := List.cons.inj hplace
    cases hfallback
  | cons first rest =>
    cases locals with
    | nil => simp at hlocals
    | cons entry others => exact ⟨trivial, fun x => rfl⟩

end Sample

/-- The steps with the sample host account for all numbers, and none of them ends the process. -/
theorem received_chain : ∃ program,
    Program.ofHost Sample.chainHost Sample.chainEvaluate = .ok program ∧
      let history := History.ofSteps (Bench.run program) Sample.chainSteps Bench.empty
      ∀ x, tally id x (receivedIn history.events) =
        tally id x (history.state.counterparts.flatMap fun entry => CellRecord.contents entry.2)
          + tally id x (history.state.hosts.flatMap fun entry => ValueRecord.contents entry.2)
          + tally id x (droppedIn history.events) := by
  obtain ⟨emission, hemission⟩ := Sample.exists_emission_chain
  have hprogram : Program.ofHost Sample.chainHost Sample.chainEvaluate =
      .ok ⟨Sample.chainHost, emission, Sample.chainEvaluate⟩ := by
    rw [Program.ofHost, hemission]
    rfl
  have hsteps : ∀ step ∈ Sample.chainSteps, step.Preserves (id : Sample.Value → Sample.Value) := by
    simp [Sample.chainSteps, Step.Preserves, Access.Preserves, Edit.Preserves]
  obtain ⟨-, hfatal, -, hgoes⟩ := Bench.received_eq_held_add_dropped Sample.ofStruct_chain hprogram
    Sample.defaultsAccount_chain hsteps
  refine ⟨_, hprogram, (hgoes fun haborted => ?_).1⟩
  obtain ⟨value, -, hagain⟩ := hfatal haborted
  cases hagain

end Counterpart
