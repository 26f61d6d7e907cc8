import Counterpart.Proofs.BrokenTemplate

/-!
# Bodies from any table

The body of a member is written from its host, and from what it takes out of a table: the
declaration of the counterpart and the names of other members, each from the first entry of a kind.
Here the table is any list of members, in which entries may be missing, repeated or of a kind that
is not theirs. A body that takes one thing after the other stops at the first that is missing. What
it takes otherwise is all that it knows of the table. Whether its template has room for the code of
the user is asked when everything was found, and has nothing to do with the table.
-/

namespace Counterpart

/-! ## First entries -/

namespace Member

/-- The member is the first of the kind in a table. -/
def IsFirst (members : List Member) (kind : MemberKind) (member : Member) : Prop :=
  ∃ front back, members = front ++ member :: back ∧ member.kind = kind ∧
    ∀ earlier ∈ front, earlier.kind ≠ kind

variable {members : List Member} {kind : MemberKind} {member : Member}

theorem find?_eq_some_iff : find? members kind = some member ↔ IsFirst members kind member := by
  rw [find?, List.find?_eq_some_iff_append]
  constructor
  · rintro ⟨hkind, front, back, hmembers, hfront⟩
    refine ⟨front, back, hmembers, of_decide_eq_true hkind, fun earlier hearlier => ?_⟩
    simpa using hfront earlier hearlier
  · rintro ⟨front, back, hmembers, hkind, hfront⟩
    refine ⟨decide_eq_true hkind, front, back, hmembers, fun earlier hearlier => ?_⟩
    simpa using hfront earlier hearlier

theorem find?_eq_none_iff : find? members kind = none ↔ ∀ member ∈ members, member.kind ≠ kind := by
  simp [find?]

end Member

/-! ## What bodies take from a table -/

/-- What a body takes from a table. -/
inductive Dependency where
  /-- The name and the generics of the counterpart, from its declaration. -/
  | declaration
  /-- The name of the first entry of a kind. -/
  | entry (kind : MemberKind)

namespace Dependency

/-- A table has what is taken. -/
inductive IsMet (members : List Member) : Dependency → Prop
  | declared {member : Member} {item : StructItem}
    (first : Member.IsFirst members .counterpart member) (htype : member.signature = .type item) :
    IsMet members declaration
  | present {member : Member} (hmem : member ∈ members) : IsMet members (entry member.kind)

/-- A table lacks what is taken, in the given way. -/
inductive IsMissing (members : List Member) : Dependency → String → Prop
  | undeclared (h : ∀ member ∈ members, member.kind ≠ .counterpart) :
    IsMissing members declaration ("missing member " ++ MemberKind.counterpart.shown)
  | untyped {member : Member} {signature : FunctionSignature}
    (first : Member.IsFirst members .counterpart member)
    (hfunction : member.signature = .function signature) :
    IsMissing members declaration "the mutable type is not a type"
  | absent {kind : MemberKind} (h : ∀ member ∈ members, member.kind ≠ kind) :
    IsMissing members (entry kind) ("missing member " ++ kind.shown)

/-- Two tables have the same to take. Of the declaration that is the name and the generics. -/
inductive Agree (members others : List Member) : Dependency → Prop
  | declared {member other : Member} {item twin : StructItem}
    (first : Member.IsFirst members .counterpart member) (htype : member.signature = .type item)
    (second : Member.IsFirst others .counterpart other) (htwin : other.signature = .type twin)
    (hident : item.ident = twin.ident) (hgenerics : item.generics = twin.generics) :
    Agree members others declaration
  | named {kind : MemberKind} {member other : Member} (first : Member.IsFirst members kind member)
    (second : Member.IsFirst others kind other) (hname : member.name = other.name) :
    Agree members others (entry kind)

/-- How a table lacks what is taken, if it does. -/
def gap? (members : List Member) : Dependency → Option String
  | declaration =>
    match Member.find? members .counterpart with
    | none => some ("missing member " ++ MemberKind.counterpart.shown)
    | some member =>
      match member.signature.type? with
      | none => some "the mutable type is not a type"
      | some _ => none
  | entry kind =>
    match Member.find? members kind with
    | none => some ("missing member " ++ kind.shown)
    | some _ => none

variable {members : List Member} {dependency : Dependency}

theorem gap?_of_isMissing {detail : String} (h : dependency.IsMissing members detail) :
    dependency.gap? members = some detail := by
  cases h with
  | undeclared hnone => rw [gap?, Member.find?_eq_none_iff.mpr hnone]
  | untyped hfirst hfunction =>
    rw [gap?, Member.find?_eq_some_iff.mpr hfirst]
    simp only [hfunction, Signature.type?]
  | absent hnone => rw [gap?, Member.find?_eq_none_iff.mpr hnone]

theorem gap?_of_isMet (h : dependency.IsMet members) : dependency.gap? members = none := by
  cases h with
  | declared hfirst htype =>
    rw [gap?, Member.find?_eq_some_iff.mpr hfirst]
    simp only [htype, Signature.type?]
  | present hmem =>
    rw [gap?]
    split
    · next hnone => exact absurd rfl (Member.find?_eq_none_iff.mp hnone _ hmem)
    · rfl

/-- A table has what is taken, or lacks it in some way. -/
theorem met_or_missing (members : List Member) (dependency : Dependency) :
    dependency.IsMet members ∨ ∃ detail, dependency.IsMissing members detail := by
  cases dependency with
  | declaration =>
    cases hfind : Member.find? members .counterpart with
    | none => exact .inr ⟨_, .undeclared (Member.find?_eq_none_iff.mp hfind)⟩
    | some member =>
      have hfirst := Member.find?_eq_some_iff.mp hfind
      cases hsignature : member.signature with
      | type item => exact .inl (.declared hfirst hsignature)
      | function signature => exact .inr ⟨_, .untyped hfirst hsignature⟩
  | entry kind =>
    by_cases hnone : ∀ member ∈ members, member.kind ≠ kind
    · exact .inr ⟨_, .absent hnone⟩
    · push Not at hnone
      obtain ⟨member, hmem, rfl⟩ := hnone
      exact .inl (.present hmem)

theorem gap?_eq_none_iff : dependency.gap? members = none ↔ dependency.IsMet members := by
  refine ⟨fun h => ?_, gap?_of_isMet⟩
  rcases dependency.met_or_missing members with hmet | ⟨detail, hmissing⟩
  · exact hmet
  · cases h.symm.trans (gap?_of_isMissing hmissing)

theorem gap?_eq_some_iff {detail : String} :
    dependency.gap? members = some detail ↔ dependency.IsMissing members detail := by
  refine ⟨fun h => ?_, gap?_of_isMissing⟩
  rcases dependency.met_or_missing members with hmet | ⟨actual, hmissing⟩
  · cases h.symm.trans (gap?_of_isMet hmet)
  · cases h.symm.trans (gap?_of_isMissing hmissing)
    exact hmissing

end Dependency

namespace Host

variable {α β : Type} {host : Host} {members : List Member}

/-- The name that is taken from the first entry of a kind. -/
def nameOf (host : Host) (members : List Member) (kind : MemberKind) : Generated Ident :=
  (host.lookup members kind).map (·.name)

/-- The name and the generics that are taken from the declaration of the counterpart. -/
def declarationOf (host : Host) (members : List Member) : Generated (Located Ident × Generics) := do
  let counterpart ← host.lookup members .counterpart
  match counterpart.signature.type? with
  | none => host.inconsistent "the mutable type is not a type"
  | some item => pure (item.ident, item.generics)

theorem nameOf_of_isFirst {kind : MemberKind} {member : Member}
    (h : Member.IsFirst members kind member) : host.nameOf members kind = .ok member.name := by
  rw [nameOf, lookup, Member.find?_eq_some_iff.mpr h]
  rfl

theorem declarationOf_of_isFirst {member : Member}
    (h : Member.IsFirst members .counterpart member) :
    host.declarationOf members =
      match member.signature with
      | .type item => .ok (item.ident, item.generics)
      | .function _ => host.inconsistent "the mutable type is not a type" := by
  rw [declarationOf, lookup, Member.find?_eq_some_iff.mpr h]
  cases hsignature : member.signature <;>
    simp only [bind, Except.bind, hsignature, Signature.type?, pure, Except.pure]

/-- What is computed from a table stops at the first dependency that is missing, and depends on
the table only through the dependencies. -/
structure Reads (host : Host) (dependencies : List Dependency)
    (compute : List Member → Generated α) : Prop where
  stops : ∀ members detail, dependencies.findSome? (·.gap? members) = some detail →
    compute members = host.inconsistent detail
  goesOn : ∀ members, dependencies.findSome? (·.gap? members) = none →
    ∃ value, compute members = .ok value
  agrees : ∀ members others, (∀ dependency ∈ dependencies, dependency.Agree members others) →
    compute members = compute others

namespace Reads

/-- What is computed without a table takes nothing from it. -/
theorem pure (value : α) : Reads host [] fun _ => .ok value where
  stops := nofun
  goesOn := fun _ _ => ⟨value, rfl⟩
  agrees := fun _ _ _ => rfl

/-- What is computed in two steps takes first what the first step takes. -/
theorem bind {first second : List Dependency} {compute : List Member → Generated α}
    {next : α → List Member → Generated β} (hfirst : Reads host first compute)
    (hsecond : ∀ value, Reads host second (next value)) :
    Reads host (first ++ second) fun members => compute members >>= fun value =>
      next value members where
  stops := by
    intro members detail h
    rw [List.findSome?_append, Option.or_eq_some_iff] at h
    rcases h with hstop | ⟨hgo, hstop⟩
    · rw [hfirst.stops members detail hstop]
      rfl
    · obtain ⟨value, hvalue⟩ := hfirst.goesOn members hgo
      rw [hvalue]
      exact (hsecond value).stops members detail hstop
  goesOn := by
    intro members h
    rw [List.findSome?_append, Option.or_eq_none_iff] at h
    obtain ⟨value, hvalue⟩ := hfirst.goesOn members h.1
    rw [hvalue]
    exact (hsecond value).goesOn members h.2
  agrees := by
    intro members others h
    obtain ⟨hone, htwo⟩ := List.forall_mem_append.mp h
    rw [hfirst.agrees members others hone]
    exact bind_congr fun value => (hsecond value).agrees members others htwo

/-- What is computed from other values takes the same. -/
theorem map {dependencies : List Dependency} {compute : List Member → Generated α}
    (h : Reads host dependencies compute) (change : α → β) :
    Reads host dependencies fun members => compute members >>= fun value => .ok (change value) := by
  rw [← List.append_nil dependencies]
  exact h.bind fun value => Reads.pure (change value)

/-- What is computed item by item takes what the items take, in their order. -/
theorem mapM {dependency : α → Dependency} {compute : α → List Member → Generated β}
    (h : ∀ item, Reads host [dependency item] (compute item)) (items : List α) :
    Reads host (items.map dependency) fun members =>
      items.mapM fun item => compute item members := by
  induction items with
  | nil => exact Reads.pure []
  | cons item rest ih =>
    simp only [List.mapM_cons]
    exact (h item).bind fun value => ih.map (value :: ·)

theorem nameOf (kind : MemberKind) :
    Reads host [.entry kind] fun members => host.nameOf members kind where
  stops := by
    intro members detail h
    rw [List.findSome?_singleton] at h
    cases Dependency.gap?_eq_some_iff.mp h with
    | absent hnone =>
      rw [Host.nameOf, lookup, Member.find?_eq_none_iff.mpr hnone]
      rfl
  goesOn := by
    intro members h
    rw [List.findSome?_singleton, Dependency.gap?] at h
    split at h
    · cases h
    · next member hfind => exact ⟨_, nameOf_of_isFirst (Member.find?_eq_some_iff.mp hfind)⟩
  agrees := by
    intro members others h
    cases List.forall_mem_singleton.mp h with
    | named hfirst hsecond hname =>
      rw [nameOf_of_isFirst hfirst, nameOf_of_isFirst hsecond, hname]

theorem declarationOf : Reads host [.declaration] host.declarationOf where
  stops := by
    intro members detail h
    rw [List.findSome?_singleton] at h
    cases Dependency.gap?_eq_some_iff.mp h with
    | undeclared hnone =>
      rw [Host.declarationOf, lookup, Member.find?_eq_none_iff.mpr hnone]
      rfl
    | untyped hfirst hfunction => rw [declarationOf_of_isFirst hfirst, hfunction]
  goesOn := by
    intro members h
    rw [List.findSome?_singleton] at h
    cases Dependency.gap?_eq_none_iff.mp h with
    | declared hfirst htype =>
      rw [declarationOf_of_isFirst hfirst, htype]
      exact ⟨_, rfl⟩
  agrees := by
    intro members others h
    cases List.forall_mem_singleton.mp h with
    | declared hfirst htype hsecond htwin hident hgenerics =>
      rw [declarationOf_of_isFirst hfirst, declarationOf_of_isFirst hsecond, htype, htwin]
      exact congrArg Except.ok (Prod.ext hident hgenerics)

end Reads

/-! ## Drafts -/

/-- What the body of a kind of member takes from a table, in order. -/
def dependencies (host : Host) : MemberKind → List Dependency
  | .counterpart | .constructor | .property _ _ | .build => []
  | .intoCounterpart =>
    [.declaration, .entry .constructor] ++
      host.parameters.map fun parameter => .entry (.property parameter.index .set)
  | .copy => [.entry .intoCounterpart, .entry .build]
  | .factory => [.declaration, .entry .constructor, .entry .build]

/-- The templates of a kind of member have room for the code of the user. -/
def HasRoom (host : Host) : MemberKind → Prop
  | .counterpart | .copy | .factory => True
  | .constructor | .intoCounterpart =>
    ∀ parameter ∈ host.parameters, parameter.name.value.isName = true
  | .property index _ =>
    ∀ parameter, host.parameters[index]? = some parameter → parameter.name.value.isName = true
  | .build => ∀ parameter ∈ host.parameters, host.Accommodates parameter

/-- The call of the constructor is made from what is taken from a table. -/
theorem constructorCall_eq (host : Host) :
    host.constructorCall = fun members =>
      host.declarationOf members >>= fun declared =>
        host.nameOf members .constructor >>= fun name =>
          .ok ⟨declared.2.appliedType declared.1, name⟩ := by
  funext members
  unfold constructorCall declarationOf nameOf
  cases host.lookup members .counterpart with
  | error reason => rfl
  | ok counterpart =>
    simp only [bind, Except.bind]
    cases counterpart.signature.type? with
    | none => rfl
    | some item => cases host.lookup members .constructor <;> rfl

theorem reads_constructorCall :
    Reads host [.declaration, .entry .constructor] host.constructorCall := by
  rw [constructorCall_eq]
  exact Reads.declarationOf.bind fun declared => (Reads.nameOf .constructor).map _

theorem reads_transferOf (parameter : Parameter) :
    Reads host [.entry (.property parameter.index .set)] fun members =>
      host.transferOf members parameter := by
  have htransfer : (fun members => host.transferOf members parameter) = fun members =>
      host.nameOf members (.property parameter.index .set) >>= fun name =>
        .ok (gated parameter ⟨name, parameter.name.value⟩) := by
    funext members
    unfold transferOf nameOf
    cases host.lookup members (.property parameter.index .set) <;> rfl
  rw [htransfer]
  exact (Reads.nameOf _).map _

/-- There is something to write a body for: an accessor needs its parameter, and the counterpart
has no body. -/
def HasBody (host : Host) : MemberKind → Prop
  | .counterpart => False
  | .property index _ => index < host.parameters.length
  | _ => True

/-- Why no body can be written, before its template is asked. -/
inductive Obstacle (host : Host) (members : List Member) : MemberKind → String → Prop
  | bodiless : Obstacle host members .counterpart "the mutable type has no body"
  | orphaned {index : Nat} {accessor : Accessor} (h : host.parameters.length ≤ index) :
    Obstacle host members (.property index accessor) "property without a parameter"
  /-- The first dependency that is missing is the reason. -/
  | missing {kind : MemberKind} {front back : List Dependency} {dependency : Dependency}
    {detail : String} (split : host.dependencies kind = front ++ dependency :: back)
    (first : ∀ earlier ∈ front, earlier.IsMet members)
    (h : dependency.IsMissing members detail) : Obstacle host members kind detail

theorem hasNames_iff :
    host.hasNames = true ↔ ∀ parameter ∈ host.parameters, parameter.name.value.isName = true :=
  List.all_eq_true

theorem accommodates_iff :
    (host.hasNames && host.parameters.all fun parameter =>
      admitsFallback (host.fallbackOf parameter)) = true ↔
        ∀ parameter ∈ host.parameters, host.Accommodates parameter := by
  rw [Bool.and_eq_true, hasNames, List.all_eq_true, List.all_eq_true]
  exact ⟨fun h parameter hparameter => ⟨h.1 parameter hparameter, h.2 parameter hparameter⟩,
    fun h => ⟨fun parameter hparameter => (h parameter hparameter).1,
      fun parameter hparameter => (h parameter hparameter).2⟩⟩

/-- A body is written from what is taken out of the table, and then its template is asked. -/
theorem exists_draft (host : Host) {kind : MemberKind} (hbody : host.HasBody kind) :
    ∃ (draft : List Member → Generated Body) (room : Bool),
      Reads host (host.dependencies kind) draft ∧ (room = true ↔ host.HasRoom kind) ∧
        ∀ members member, member.kind = kind →
          host.body members member = draft members >>= fun body =>
            provided room >>= fun _ => .ok body := by
  cases kind with
  | counterpart => exact hbody.elim
  | constructor =>
    refine ⟨_, host.hasNames, Reads.pure (.construct host.cells), hasNames_iff, ?_⟩
    intro members member hkind
    rw [body, hkind]
    rfl
  | property index accessor =>
    obtain ⟨parameter, hparameter⟩ : ∃ parameter, host.parameters[index]? = some parameter :=
      ⟨_, List.getElem?_eq_getElem hbody⟩
    refine ⟨_, parameter.name.value.isName, Reads.pure (accessorBody parameter accessor), ?_, ?_⟩
    · simp [HasRoom, hparameter]
    · intro members member hkind
      simp only [body, hkind, hparameter]
      rfl
  | build =>
    refine ⟨_, _, Reads.pure host.buildBody, accommodates_iff, ?_⟩
    intro members member hkind
    rw [body, hkind]
    rfl
  | intoCounterpart =>
    refine ⟨_, host.hasNames, reads_constructorCall.bind fun start =>
      (Reads.mapM reads_transferOf host.parameters).map (Body.transfer start), hasNames_iff, ?_⟩
    intro members member hkind
    simp only [body, hkind, bind_assoc]
    rfl
  | copy =>
    refine ⟨_, true, (Reads.nameOf .intoCounterpart).bind fun into =>
      (Reads.nameOf .build).map (Body.copy into), by simp [HasRoom], ?_⟩
    intro members member hkind
    rw [body, hkind]
    unfold nameOf
    cases host.lookup members .intoCounterpart <;> cases host.lookup members .build <;> rfl
  | factory =>
    refine ⟨_, true, reads_constructorCall.bind fun start =>
      (Reads.nameOf .build).map (Body.create start), by simp [HasRoom], ?_⟩
    intro members member hkind
    rw [body, hkind]
    unfold nameOf
    cases host.constructorCall members <;> cases host.lookup members .build <;> rfl

/-! ## Outcomes -/

/-- Everything is there that a body is written from. -/
def IsComplete (host : Host) (members : List Member) (kind : MemberKind) : Prop :=
  host.HasBody kind ∧ ∀ dependency ∈ host.dependencies kind, dependency.IsMet members

/-- Everything is there, or something is in the way. -/
theorem complete_or_obstacle (host : Host) (members : List Member) (kind : MemberKind) :
    host.IsComplete members kind ∨ ∃ detail, host.Obstacle members kind detail := by
  by_cases hbody : host.HasBody kind
  · cases hgap : (host.dependencies kind).findSome? (·.gap? members) with
    | none =>
      refine .inl ⟨hbody, fun dependency hdependency => ?_⟩
      exact Dependency.gap?_eq_none_iff.mp (List.findSome?_eq_none_iff.mp hgap _ hdependency)
    | some detail =>
      obtain ⟨front, dependency, back, hsplit, hmissing, hfront⟩ :=
        List.findSome?_eq_some_iff.mp hgap
      refine .inr ⟨detail, .missing hsplit (fun earlier hearlier => ?_)
        (Dependency.gap?_eq_some_iff.mp hmissing)⟩
      exact Dependency.gap?_eq_none_iff.mp (hfront earlier hearlier)
  · cases kind with
    | counterpart => exact .inr ⟨_, .bodiless⟩
    | property index accessor => exact .inr ⟨_, .orphaned (Nat.not_lt.mp hbody)⟩
    | _ => exact absurd trivial hbody

variable {member : Member}

/-- What is in the way is said. -/
theorem body_of_obstacle {detail : String} (h : host.Obstacle members member.kind detail) :
    host.body members member = host.inconsistent detail := by
  generalize hkind : member.kind = kind at h
  cases h with
  | bodiless => rw [body, hkind]
  | orphaned horphaned =>
    simp only [body, hkind, List.getElem?_eq_none horphaned]
  | missing hsplit hfront hmissing =>
    have hbody : host.HasBody kind := by
      cases kind with
      | counterpart | property => exact absurd hsplit.symm (by simp [dependencies])
      | _ => trivial
    obtain ⟨draft, room, hreads, -, hdraft⟩ := host.exists_draft hbody
    have hgap : (host.dependencies kind).findSome? (·.gap? members) = some detail :=
      List.findSome?_eq_some_iff.mpr ⟨_, _, _, hsplit, Dependency.gap?_of_isMissing hmissing,
        fun earlier hearlier => Dependency.gap?_of_isMet (hfront earlier hearlier)⟩
    rw [hdraft members member hkind, hreads.stops members detail hgap]
    rfl

/-- When everything is there, the template decides. -/
theorem body_of_isComplete (h : host.IsComplete members member.kind) :
    (host.HasRoom member.kind → ∃ body, host.body members member = .ok body) ∧
      (¬ host.HasRoom member.kind → host.body members member = .error .brokenTemplate) := by
  obtain ⟨draft, room, hreads, hroom, hdraft⟩ := host.exists_draft h.1
  have hgap : (host.dependencies member.kind).findSome? (·.gap? members) = none :=
    List.findSome?_eq_none_iff.mpr fun dependency hdependency =>
      Dependency.gap?_of_isMet (h.2 dependency hdependency)
  obtain ⟨body, hbody⟩ := hreads.goesOn members hgap
  rw [hdraft members member rfl, hbody, ← hroom]
  cases room with
  | false => exact ⟨nofun, fun _ => rfl⟩
  | true => exact ⟨fun _ => ⟨body, rfl⟩, fun hbroken => absurd rfl hbroken⟩

/-- Tables that agree on what a body takes from them give the same body. -/
theorem body_congr {others : List Member}
    (h : ∀ dependency ∈ host.dependencies member.kind, dependency.Agree members others) :
    host.body members member = host.body others member := by
  by_cases hbody : host.HasBody member.kind
  · obtain ⟨draft, room, hreads, -, hdraft⟩ := host.exists_draft hbody
    rw [hdraft members member rfl, hdraft others member rfl, hreads.agrees members others h]
  · -- Without anything to write a body for, the table is not looked at.
    unfold body
    generalize member.kind = kind at hbody
    cases kind with
    | counterpart => rfl
    | property => rfl
    | _ => exact absurd trivial hbody

/-- A body is rejected for nothing but what is in the way of it. -/
theorem body_eq_rejected_iff {found : List Diagnostic} :
    host.body members member = .error (.rejected found) ↔
      ∃ detail, host.Obstacle members member.kind detail ∧
        found = [⟨.inconsistent detail, host.naming.host.region⟩] := by
  constructor
  · intro hbody
    rcases host.complete_or_obstacle members member.kind with hcomplete | ⟨detail, hobstacle⟩
    · by_cases hroom : host.HasRoom member.kind
      · obtain ⟨body, hok⟩ := (body_of_isComplete hcomplete).1 hroom
        cases hbody.symm.trans hok
      · cases hbody.symm.trans ((body_of_isComplete hcomplete).2 hroom)
    · cases hbody.symm.trans (body_of_obstacle hobstacle)
      exact ⟨detail, hobstacle, rfl⟩
  · rintro ⟨detail, hobstacle, rfl⟩
    exact body_of_obstacle hobstacle

/-- A body is written exactly if everything is there and its template has room. -/
theorem exists_body_iff :
    (∃ body, host.body members member = .ok body) ↔
      host.IsComplete members member.kind ∧ host.HasRoom member.kind := by
  constructor
  · rintro ⟨body, hok⟩
    rcases host.complete_or_obstacle members member.kind with hcomplete | ⟨detail, hobstacle⟩
    · refine ⟨hcomplete, by_contra fun hroom => ?_⟩
      cases hok.symm.trans ((body_of_isComplete hcomplete).2 hroom)
    · cases hok.symm.trans (body_of_obstacle hobstacle)
  · rintro ⟨hcomplete, hroom⟩
    exact (body_of_isComplete hcomplete).1 hroom

/-- A template ends the expansion exactly if everything is there and it has no room. -/
theorem body_eq_broken_iff :
    host.body members member = .error .brokenTemplate ↔
      host.IsComplete members member.kind ∧ ¬ host.HasRoom member.kind := by
  constructor
  · intro hbroken
    rcases host.complete_or_obstacle members member.kind with hcomplete | ⟨detail, hobstacle⟩
    · refine ⟨hcomplete, fun hroom => ?_⟩
      obtain ⟨body, hok⟩ := (body_of_isComplete hcomplete).1 hroom
      cases hbroken.symm.trans hok
    · cases hbroken.symm.trans (body_of_obstacle hobstacle)
  · rintro ⟨hcomplete, hroom⟩
    exact (body_of_isComplete hcomplete).2 hroom

/-- A default that starts with a block and goes on behind it has no room as an arm. -/
theorem not_hasRoom_build {parameter : Parameter} (hparameter : parameter ∈ host.parameters)
    {expression : Tree} (hfallback : host.fallbackOf parameter = .value expression)
    {rest : List TokenTree} (hstarts : Grammar.StartsWithBlock expression.tokens rest)
    (hrest : rest ≠ []) (hdot : Grammar.dotAhead rest = false)
    (hquestion : Lookahead.operator "?" rest = false) : ¬ host.HasRoom .build := by
  intro hroom
  have hadmits := (hroom parameter hparameter).2
  rw [hfallback, admitsFallback, admitsArm_eq_false hstarts hrest hdot hquestion] at hadmits
  cases hadmits

end Host

/-- The body of a member, whatever the table is. Everything it is written from is there, or the
first thing that is not is named in the only diagnostic. When everything is there, the body is
written if its template has room for the names and the defaults of the parameters. Otherwise the
expansion ends, as it does for a default that starts with a block and goes on behind it. Tables that
agree on what is taken from them give the same body. -/
theorem body_from_any_table (host : Host) (members : List Member) (member : Member) :
    ((∃ body, host.body members member = .ok body) ↔
      host.IsComplete members member.kind ∧ host.HasRoom member.kind) ∧
    (∀ found, host.body members member = .error (.rejected found) ↔
      ∃ detail, host.Obstacle members member.kind detail ∧
        found = [⟨.inconsistent detail, host.naming.host.region⟩]) ∧
    (host.body members member = .error .brokenTemplate ↔
      host.IsComplete members member.kind ∧ ¬ host.HasRoom member.kind) ∧
    (∀ parameter ∈ host.parameters, ∀ expression rest,
      host.fallbackOf parameter = .value expression →
        Grammar.StartsWithBlock expression.tokens rest → rest ≠ [] →
          Grammar.dotAhead rest = false → Lookahead.operator "?" rest = false →
            ¬ host.HasRoom .build) ∧
    ∀ others, (∀ dependency ∈ host.dependencies member.kind, dependency.Agree members others) →
      host.body members member = host.body others member :=
  ⟨Host.exists_body_iff, fun _ => Host.body_eq_rejected_iff, Host.body_eq_broken_iff,
    fun _ hparameter _ _ hfallback hstarts hrest hdot hquestion =>
      Host.not_hasRoom_build hparameter hfallback hstarts hrest hdot hquestion,
    fun _ h => Host.body_congr h⟩

/-- The function that makes a host has no body for the sample struct whose default is a difference
that starts with a block, although the struct is a host and its table is complete. -/
theorem body_build_difference :
    Host.ofStruct Sample.difference .standard none = .ok Sample.differenceHost ∧
      Sample.differenceHost.buildMember ∈ Sample.differenceHost.table ∧
        Sample.differenceHost.buildMember.kind = .build ∧
          Sample.differenceHost.body Sample.differenceHost.table Sample.differenceHost.buildMember =
            .error .brokenTemplate := by
  refine ⟨Sample.ofStruct_difference, Host.buildMember_mem_table _, rfl, ?_⟩
  have hroom : ¬ Sample.differenceHost.HasRoom .build :=
    Host.not_hasRoom_build (List.mem_singleton.mpr rfl) rfl .plain (List.cons_ne_nil _ _) rfl rfl
  exact Host.body_eq_broken_iff.mpr ⟨⟨trivial, nofun⟩, hroom⟩

end Counterpart
