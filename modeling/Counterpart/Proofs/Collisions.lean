import Counterpart.Proofs.DistinctNames

/-!
# Which fields collide

The accessors of a counterpart are named after the fields, between the constructor and the function
that makes a host. When two of these names are one is a matter of the names of the fields alone: it
happens if a field is called like another one with the affixes of an accessor, or like one of the two
functions. What is reported are the members whose name an earlier one has. Neither the style nor a
name of its own for the counterpart changes that.
-/

namespace Counterpart

namespace Naming

/-- The names of the accessors of a field, in order. -/
def accessorNames (naming : Naming) (field : Ident) : List Ident :=
  [getter field, mutableGetter field, naming.setter field]

/-- An accessor of the second field has the name of an accessor of the first one. -/
def Clashes (configuration : Configuration) (first second : String) : Prop :=
  second = first ++ "_mut" ∨ configuration.javaSetters = false ∧
    (second = "get_" ++ first ∨ second = "get_" ++ first ++ "_mut")

/-- The setter of a field has the name of a function that every counterpart has. -/
def IsTaken (configuration : Configuration) (field : String) : Prop :=
  configuration.javaSetters = false ∧ (field = "new" ∨ field = "build")

/-! ## Single fields -/

theorem not_clashes_self (configuration : Configuration) (field : String) :
    ¬ Clashes configuration field field := by
  have hlength (before behind : String) (h : 0 < before.length + behind.length) :
      field ≠ before ++ field ++ behind := by
    intro heq
    have hsame := congrArg String.length heq
    simp only [String.length_append] at hsame
    omega
  rintro (h | ⟨-, h | h⟩)
  · exact hlength "" "_mut" (by decide) (by simpa using h)
  · exact hlength "get_" "" (by decide) (by simpa using h)
  · exact hlength "get_" "_mut" (by decide) h

variable {naming : Naming}

/-- The names that a plain field gives its accessors. -/
theorem accessorNames_plain (naming : Naming) (field : String) :
    naming.accessorNames (.plain field) =
      [.plain ("get_" ++ field), .plain ("get_" ++ field ++ "_mut"),
        .plain (if naming.configuration.javaSetters then "set_" ++ field else field)] := by
  cases hjava : naming.configuration.javaSetters <;>
    simp [accessorNames, getter, mutableGetter, setter, Ident.affixed, Ident.plain, hjava]

/-- The accessors of one field have different names. -/
theorem nodup_accessorNames_plain (naming : Naming) (field : String) :
    (naming.accessorNames (.plain field)).Nodup := by
  rw [accessorNames_plain]
  have hself := not_clashes_self naming.configuration field
  cases hjava : naming.configuration.javaSetters <;>
    simp [Ident.plain, Clashes, hjava, ← String.toList_inj] at hself ⊢
  grind

/-- The accessors of two fields have different names exactly if the fields do not clash. -/
theorem disjoint_accessorNames_plain {first second : String} (h : first ≠ second) :
    (naming.accessorNames (.plain first)).Disjoint (naming.accessorNames (.plain second)) ↔
      ¬ Clashes naming.configuration first second ∧
        ¬ Clashes naming.configuration second first := by
  rw [accessorNames_plain, accessorNames_plain]
  cases hjava : naming.configuration.javaSetters <;>
    simp [Ident.plain, Clashes, hjava, ← String.toList_inj] at h ⊢
  all_goals grind

/-- No accessor of a field is called like a function that every counterpart has, unless the field
is. -/
theorem not_mem_accessorNames_plain {field : String} :
    (constructor ∉ naming.accessorNames (.plain field) ∧
      build ∉ naming.accessorNames (.plain field)) ↔ ¬ IsTaken naming.configuration field := by
  rw [accessorNames_plain]
  cases hjava : naming.configuration.javaSetters <;>
    simp [Ident.plain, constructor, build, IsTaken, hjava, ← String.toList_inj]
  grind

end Naming

namespace Host

/-! ## Rows of fields -/

variable {naming : Naming} {fields : List NamedField}

theorem functionNames_eq (naming : Naming) (fields : List NamedField) :
    functionNames naming fields = Naming.constructor ::
      fields.flatMap (fun field => naming.accessorNames field.ident.value) ++ [Naming.build] := rfl

/-- All names are distinct exactly if those of the accessors of one field are, those of the accessors
of two fields are, and none of them is the name of a function that every counterpart has. -/
theorem nodup_functionNames_iff : (functionNames naming fields).Nodup ↔
    (∀ field ∈ fields, (naming.accessorNames field.ident.value).Nodup) ∧
    (∀ field ∈ fields, Naming.constructor ∉ naming.accessorNames field.ident.value ∧
      Naming.build ∉ naming.accessorNames field.ident.value) ∧
    fields.Pairwise fun first second => (naming.accessorNames first.ident.value).Disjoint
      (naming.accessorNames second.ident.value) := by
  have hother : Naming.constructor ≠ Naming.build := by decide
  rw [functionNames_eq, List.nodup_append', List.nodup_cons, List.nodup_flatMap]
  simp only [List.mem_flatMap, not_exists, not_and, List.nodup_singleton, List.disjoint_singleton,
    List.mem_cons, not_or, forall_and]
  constructor
  · rintro ⟨⟨hconstructor, hown, hpairs⟩, -, -, hbuild⟩
    exact ⟨hown, ⟨hconstructor, hbuild⟩, hpairs⟩
  · rintro ⟨hown, ⟨hconstructor, hbuild⟩, hpairs⟩
    exact ⟨⟨hconstructor, hown, hpairs⟩, trivial, hother.symm, hbuild⟩

/-- The names are distinct exactly if no field is called like a function that every counterpart has,
and no two fields clash. The fields are different and not raw. -/
theorem nodup_functionNames_plain_iff (hplain : ∀ field ∈ fields, field.ident.value.isRaw = false)
    (hdistinct : (fields.map (·.ident.value)).Nodup) :
    (functionNames naming fields).Nodup ↔
      (∀ field ∈ fields, ¬ Naming.IsTaken naming.configuration field.ident.value.name) ∧
      ∀ first ∈ fields, ∀ second ∈ fields,
        ¬ Naming.Clashes naming.configuration first.ident.value.name second.ident.value.name := by
  have hword (field : NamedField) (hfield : field ∈ fields) :
      field.ident.value = .plain field.ident.value.name :=
    eq_of_name_eq (hplain field hfield) rfl rfl
  have hdifferent : fields.Pairwise fun first second =>
      first.ident.value.name ≠ second.ident.value.name := by
    refine (List.pairwise_map.mp hdistinct).imp_of_mem fun hfirst hsecond hne heq => hne ?_
    rw [hword _ hfirst, hword _ hsecond, heq]
  have hown : ∀ field ∈ fields, (naming.accessorNames field.ident.value).Nodup := by
    intro field hfield
    rw [hword field hfield]
    exact Naming.nodup_accessorNames_plain naming _
  have htaken (field : NamedField) (hfield : field ∈ fields) :
      (Naming.constructor ∉ naming.accessorNames field.ident.value ∧
        Naming.build ∉ naming.accessorNames field.ident.value) ↔
      ¬ Naming.IsTaken naming.configuration field.ident.value.name := by
    rw [hword field hfield]
    exact Naming.not_mem_accessorNames_plain
  have hpair (first second : NamedField) (hfirst : first ∈ fields) (hsecond : second ∈ fields)
      (hne : first.ident.value.name ≠ second.ident.value.name) :
      (naming.accessorNames first.ident.value).Disjoint
          (naming.accessorNames second.ident.value) ↔
        ¬ Naming.Clashes naming.configuration first.ident.value.name second.ident.value.name ∧
        ¬ Naming.Clashes naming.configuration second.ident.value.name first.ident.value.name := by
    rw [hword first hfirst, hword second hsecond]
    exact Naming.disjoint_accessorNames_plain hne
  rw [nodup_functionNames_iff]
  constructor
  · rintro ⟨-, hfree, hdisjoint⟩
    refine ⟨fun field hfield => (htaken field hfield).mp (hfree field hfield),
      fun first hfirst second hsecond => ?_⟩
    have hboth := (hdisjoint.and hdifferent).imp_of_mem fun hfirst hsecond h =>
      (hpair _ _ hfirst hsecond h.2).mp h.1
    have hahead := hboth.imp fun h => h.1
    exact hahead.forall_of_forall_of_flip (fun _ _ => Naming.not_clashes_self _ _)
      (hboth.imp fun h => h.2) hfirst hsecond
  · rintro ⟨hfree, hclash⟩
    refine ⟨hown, fun field hfield => (htaken field hfield).mpr (hfree field hfield), ?_⟩
    exact hdifferent.imp_of_mem fun hfirst hsecond hne => (hpair _ _ hfirst hsecond hne).mpr
      ⟨hclash _ hfirst _ hsecond, hclash _ hsecond _ hfirst⟩

/-! ## What is reported -/

/-- Whether a member in a row has the name of one in front of it. -/
def repeatsName (members : List Member) (entry : Member × Nat) : Bool :=
  ((members.take entry.2).map (·.name)).contains entry.1.name

/-- The members of the counterpart whose name an earlier one of them has. -/
def namesakes (members : List Member) : List Member :=
  let own := members.filter fun member => member.owner = .counterpart
  (own.zipIdx.filter (repeatsName own)).map (·.1)

/-- Names that stand in a row a second time are those of the members that share theirs with an
earlier one. The induction is on the members behind a front, whose names were seen. -/
theorem repeated_map_name (front back : List Member) {seen : List Ident}
    (hseen : ∀ name, name ∈ seen ↔ name ∈ front.map (·.name)) :
    repeated seen (back.map (·.name)) =
      ((back.zipIdx front.length).filter (repeatsName (front ++ back))).map (·.1.name) := by
  induction back generalizing front seen with
  | nil => rfl
  | cons member rest ih =>
    have hrest := @ih (front ++ [member]) (member.name :: seen) fun name => by
      rw [List.mem_cons, hseen, List.map_append, List.mem_append, List.map_singleton,
        List.mem_singleton, or_comm]
    rw [List.append_assoc, List.singleton_append, List.length_append, List.length_singleton] at hrest
    have hmember : repeatsName (front ++ member :: rest) (member, front.length) =
        seen.contains member.name := by
      rw [repeatsName, List.take_left, Bool.eq_iff_iff, List.contains_iff_mem,
        List.contains_iff_mem, hseen]
    rw [List.map_cons, repeated, hrest, List.zipIdx_cons, List.filter_cons, hmember]
    cases seen.contains member.name <;> rfl

theorem repeated_namesOf (members : List Member) :
    repeated [] (Member.namesOf .counterpart members) = (namesakes members).map (·.name) := by
  rw [Member.namesOf, repeated_map_name [] _ (by simp), namesakes, List.map_map]
  rfl

/-- The check reports every member of the counterpart whose name an earlier one has. -/
theorem checkCollisions_eq (host : Host) (members : List Member) :
    host.checkCollisions members = if namesakes members = [] then .ok () else
      .error (.rejected ((namesakes members).map fun member =>
        ⟨.collision member.name.text host.shownCounterpart, host.naming.host.region⟩)) := by
  have hfound : host.collisions members = (namesakes members).map fun member =>
      ⟨.collision member.name.text host.shownCounterpart, host.naming.host.region⟩ := by
    rw [collisions, repeated_namesOf, List.map_map]
    rfl
  rw [checkCollisions, hfound, refuse]
  cases namesakes members <;> rfl

theorem repeated_eq_nil_of_nodup {seen names : List Ident} (h : names.Nodup)
    (hseen : ∀ name ∈ names, name ∉ seen) : repeated seen names = [] := by
  induction names generalizing seen with
  | nil => rfl
  | cons name rest ih =>
    obtain ⟨hname, hrest⟩ := List.nodup_cons.mp h
    obtain ⟨hfresh, hothers⟩ := List.forall_mem_cons.mp hseen
    have hbehind : repeated (name :: seen) rest = [] := by
      refine ih hrest fun other hother => ?_
      rw [List.mem_cons, not_or]
      exact ⟨fun heq => hname (heq ▸ hother), hothers other hother⟩
    rw [repeated, hbehind, List.contains_eq_mem, decide_eq_false hfresh]
    rfl

/-- The check passes exactly if all names are distinct. -/
theorem checkCollisions_eq_ok_iff {host : Host} {members : List Member} :
    host.checkCollisions members = .ok () ↔ (Member.namesOf .counterpart members).Nodup := by
  have hrepeated : namesakes members = [] ↔
      repeated [] (Member.namesOf .counterpart members) = [] := by
    rw [repeated_namesOf, List.map_eq_nil_iff]
  rw [checkCollisions_eq]
  constructor
  · intro h
    split at h
    · next hnone => exact (nodup_of_repeated_eq_nil (hrepeated.mp hnone)).1
    · cases h
  · intro h
    rw [if_pos (hrepeated.mpr (repeated_eq_nil_of_nodup h nofun))]

/-- Of what a naming knows, the names depend on the fields' setters alone. -/
theorem functionNames_congr {other : Naming}
    (h : other.configuration.javaSetters = naming.configuration.javaSetters) :
    functionNames other fields = functionNames naming fields := by
  simp only [functionNames, Naming.setter, h]

/-- The names of the counterpart's members are those that the fields of the struct give. -/
theorem namesOf_of_ofStruct {item : StructItem} {configuration : Configuration}
    {rename : Option (Located Ident)} {host : Host} {fields : List NamedField}
    (hhost : ofStruct item configuration rename = .ok host)
    (hfields : item.primaryConstructor? = some fields) :
    Member.namesOf .counterpart host.declared = functionNames host.naming fields ∧
      host.naming.configuration = configuration := by
  obtain ⟨own, hown, rfl⟩ := eq_of_ofStruct hhost
  obtain rfl : own = fields := Option.some.inj (hown.symm.trans hfields)
  exact ⟨by rw [declared_eq_table, namesOf_counterpart_eq rfl], rfl⟩

end Host

/-- Which fields collide. Take a host whose fields are different and not raw. With bare setters the
check for collisions passes exactly if no field is `new` or `build` and none is another one with the
affixes of an accessor; with a verb in front of setters, exactly if no field is another one with
`_mut` behind it. If it fails then there is one diagnostic for each member of the counterpart whose
name an earlier one has, in the order of the table. The style, and a name of its own for the
counterpart, do not change which names these are. -/
theorem collisions_exact {item : StructItem} {configuration : Configuration}
    {rename : Option (Located Ident)} {host : Host} {fields : List NamedField}
    (hhost : Host.ofStruct item configuration rename = .ok host)
    (hfields : item.primaryConstructor? = some fields)
    (hplain : ∀ field ∈ fields, field.ident.value.isRaw = false)
    (hdistinct : (fields.map (·.ident.value)).Nodup) :
    (configuration.javaSetters = false → (host.checkCollisions host.declared = .ok () ↔
      (∀ field ∈ fields, field.ident.value.name ≠ "new" ∧ field.ident.value.name ≠ "build") ∧
      ∀ first ∈ fields, ∀ second ∈ fields,
        second.ident.value.name ≠ first.ident.value.name ++ "_mut" ∧
        second.ident.value.name ≠ "get_" ++ first.ident.value.name ∧
        second.ident.value.name ≠ "get_" ++ first.ident.value.name ++ "_mut")) ∧
    (configuration.javaSetters = true → (host.checkCollisions host.declared = .ok () ↔
      ∀ first ∈ fields, ∀ second ∈ fields,
        second.ident.value.name ≠ first.ident.value.name ++ "_mut")) ∧
    (host.checkCollisions host.declared ≠ .ok () → host.checkCollisions host.declared =
      .error (.rejected ((Host.namesakes host.declared).map fun member =>
        ⟨.collision member.name.text host.shownCounterpart, host.naming.host.region⟩))) ∧
    ∀ (style : Style) (otherRename : Option (Located Ident)) (other : Host),
      Host.ofStruct item { configuration with style } otherRename = .ok other →
        (Host.namesakes other.declared).map (·.name) =
          (Host.namesakes host.declared).map (·.name) := by
  obtain ⟨hnames, hconfiguration⟩ := Host.namesOf_of_ofStruct hhost hfields
  have hpasses : host.checkCollisions host.declared = .ok () ↔
      (∀ field ∈ fields, ¬ Naming.IsTaken configuration field.ident.value.name) ∧
      ∀ first ∈ fields, ∀ second ∈ fields,
        ¬ Naming.Clashes configuration first.ident.value.name second.ident.value.name := by
    rw [Host.checkCollisions_eq_ok_iff, hnames, Host.nodup_functionNames_plain_iff hplain hdistinct,
      hconfiguration]
  refine ⟨fun hjava => ?_, fun hjava => ?_, fun hfails => ?_, fun style otherRename other hother => ?_⟩
  · simpa [Naming.IsTaken, Naming.Clashes, hjava] using hpasses
  · simpa [Naming.IsTaken, Naming.Clashes, hjava] using hpasses
  · rw [Host.checkCollisions_eq] at hfails ⊢
    split at hfails
    · exact absurd rfl hfails
    · next hsome => rw [if_neg hsome]
  · obtain ⟨hotherNames, hotherConfiguration⟩ := Host.namesOf_of_ofStruct hother hfields
    have hsame : other.naming.configuration.javaSetters = host.naming.configuration.javaSetters := by
      rw [hotherConfiguration, hconfiguration]
    rw [← Host.repeated_namesOf, ← Host.repeated_namesOf, hotherNames, hnames,
      Host.functionNames_congr hsame]

/-- No two fields of the sample struct collide. -/
theorem collisions_chain :
    Sample.chainHost.checkCollisions Sample.chainHost.declared = .ok () := by
  have hbare := (collisions_exact Sample.ofStruct_chain rfl (by decide) (by decide)).1 rfl
  exact hbare.mpr (by decide)

end Counterpart
