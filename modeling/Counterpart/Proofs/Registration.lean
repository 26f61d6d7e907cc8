import Counterpart.Proofs.Assembly
import Counterpart.Proofs.Blame
import Counterpart.Proofs.MemberTable
import Counterpart.Proofs.Scope
import Counterpart.Sample.Chain
import Counterpart.Session

/-!
# What is registered

Five checks decide whether a struct becomes a host. The first two end the registration: the struct
must have named fields, and none of them may be explicitly private. The others go through all fields
and gather what they find, first about helpers and then about defaults. A field whose helpers are in
error has no default of its own, but its name still counts for the defaults of the other fields. So
a struct is registered or turned away with everything that is wrong with it, in a fixed order.
-/

namespace Counterpart

/-! ## Explicitly private fields -/

namespace Visibility

/-- What is visible only in its own module, and is said to be. -/
def IsExplicitlyPrivate (visibility : Visibility) : Prop :=
  ∃ path, visibility.scope = .within path ∧ path.isWord "self" = true

end Visibility

namespace ConstructorVisibility

theorem ofVisibility_of_isExplicitlyPrivate {visibility : Visibility}
    (h : visibility.IsExplicitlyPrivate) :
    ofVisibility visibility = explicitlyPrivate (Tree.regionAll visibility.trees) := by
  obtain ⟨path, hscope, hself⟩ := h
  rw [ofVisibility, hscope]
  exact if_pos hself

theorem rank_ofVisibility_lt {visibility : Visibility} (h : ¬ visibility.IsExplicitlyPrivate) :
    (ofVisibility visibility).rank < 3 := by
  unfold ofVisibility
  split
  · decide
  · decide
  · next path hscope =>
    rw [if_neg fun hself => h ⟨path, hscope, hself⟩]
    decide

/-- Together, fields that are not explicitly private are not. -/
theorem rank_foldl_narrower_lt {fields : List NamedField}
    (h : ∀ field ∈ fields, ¬ field.visibility.IsExplicitlyPrivate) {start : ConstructorVisibility}
    (hstart : start.rank < 3) :
    ((fields.map fun field => ofVisibility field.visibility).foldl narrower start).rank < 3 := by
  induction fields generalizing start with
  | nil => exact hstart
  | cons field rest ih =>
    obtain ⟨hfield, hrest⟩ := List.forall_mem_cons.mp h
    refine ih hrest ?_
    rw [rank_narrower]
    exact Nat.max_lt.mpr ⟨hstart, rank_ofVisibility_lt hfield⟩

/-- Nothing is narrower than an explicitly private field. -/
theorem foldl_narrower_explicitlyPrivate (region : Option Region)
    (visibilities : List ConstructorVisibility) :
    visibilities.foldl narrower (explicitlyPrivate region) = explicitlyPrivate region := by
  induction visibilities with
  | nil => rfl
  | cons visibility rest ih =>
    have hkept : narrower (explicitlyPrivate region) visibility = explicitlyPrivate region := by
      cases visibility <;> rfl
    rw [List.foldl_cons, hkept, ih]

/-- An explicitly private field is narrower than what is not. -/
theorem narrower_explicitlyPrivate {visibility : ConstructorVisibility} (h : visibility.rank < 3)
    (region : Option Region) :
    narrower visibility (explicitlyPrivate region) = explicitlyPrivate region := if_pos h

/-- Together, fields are as private as the first that is explicitly private. -/
theorem ofFields_of_first_private {front back : List NamedField} {field : NamedField}
    (hfront : ∀ earlier ∈ front, ¬ earlier.visibility.IsExplicitlyPrivate)
    (hfield : field.visibility.IsExplicitlyPrivate) :
    ofFields (front ++ field :: back) =
      explicitlyPrivate (Tree.regionAll field.visibility.trees) := by
  have hstart : everywhere.rank < 3 := by decide
  rw [ofFields, List.map_append, List.map_cons, List.foldl_append, List.foldl_cons,
    ofVisibility_of_isExplicitlyPrivate hfield,
    narrower_explicitlyPrivate (rank_foldl_narrower_lt hfront hstart),
    foldl_narrower_explicitlyPrivate]

theorem ofFields_ne_explicitlyPrivate {fields : List NamedField}
    (h : ∀ field ∈ fields, ¬ field.visibility.IsExplicitlyPrivate) (region : Option Region) :
    ofFields fields ≠ explicitlyPrivate region := by
  have hstart : everywhere.rank < 3 := by decide
  intro heq
  have hrank : (ofFields fields).rank < 3 := rank_foldl_narrower_lt h hstart
  rw [heq] at hrank
  exact Nat.lt_irrefl 3 hrank

end ConstructorVisibility

namespace StructItem

variable {item : StructItem} {fields : List NamedField} {trailing : Bool}

/-- Only named fields make a constructor. -/
theorem checkConstructor_of_unnamed (h : ∀ fields trailing, item.fields ≠ .named fields trailing) :
    item.checkConstructor = Checked.fail .noPrimaryConstructor item.ident.region := by
  have hnone : item.primaryConstructor? = none := by
    cases hfields : item.primaryConstructor? with
    | none => rfl
    | some fields =>
      obtain ⟨trailing, hnamed⟩ := named_of_primaryConstructor? hfields
      exact absurd hnamed (h fields trailing)
  rw [checkConstructor, hnone]

/-- The check of named fields is about what they allow together. -/
theorem checkConstructor_of_named (hnamed : item.fields = .named fields trailing) :
    item.checkConstructor =
      match ConstructorVisibility.ofFields fields with
      | .explicitlyPrivate region => Checked.fail .privateConstructor region
      | _ => .ok () := by
  have hfields : item.primaryConstructor? = some fields := by
    rw [primaryConstructor?, hnamed]
  unfold checkConstructor
  split
  · next hnone => cases hnone.symm.trans hfields
  · next own hown =>
    cases hown.symm.trans hfields
    rfl

theorem checkConstructor_of_visible (hnamed : item.fields = .named fields trailing)
    (hvisible : ∀ field ∈ fields, ¬ field.visibility.IsExplicitlyPrivate) :
    item.checkConstructor = .ok () := by
  rw [checkConstructor_of_named hnamed]
  split
  · next region heq =>
    exact absurd heq (ConstructorVisibility.ofFields_ne_explicitlyPrivate hvisible region)
  · rfl

end StructItem

/-! ## Words that a default may not refer to -/

/-- The default of a field, if its helpers are not in error and give one. -/
def NamedField.fallback? (field : NamedField) : Option Tree :=
  (Helper.default? field.attributes).toOption.join

namespace Occurrence

/-- The word refers to the parameter at the given place or to one behind it: it is free, and a
parameter of its name is there and none in front. -/
def IsPremature (names : List Ident) (place : Nat) (occurrence : Occurrence) : Prop :=
  occurrence.isBound = false ∧ occurrence.ident ∉ names.take place ∧
    occurrence.ident ∈ names.drop place

instance (names : List Ident) (place : Nat) (occurrence : Occurrence) :
    Decidable (occurrence.IsPremature names place) :=
  inferInstanceAs (Decidable (_ ∧ _ ∧ _))

/-- Why the word may not stand in the default of the parameter at the given place, whose name is
`own`. -/
def offence? (names : List Ident) (place : Nat) (own : Ident) (occurrence : Occurrence) :
    Option Cause :=
  if occurrence.ident.isWord "self" then some .refersToReceiver
  else if occurrence.IsPremature names place then
    some (if occurrence.ident = own then .refersToItself own.text
      else .refersAhead own.text occurrence.ident.text)
  else none

theorem isPremature_iff {names : List Ident} {place : Nat} {occurrence : Occurrence} :
    occurrence.IsPremature names place ↔
      occurrence.isBound = false ∧ occurrence.ident ∈ names ∧
        place ≤ names.idxOf occurrence.ident := by
  refine and_congr_right fun _ => ?_
  constructor
  · rintro ⟨hfront, hback⟩
    have hmem := List.mem_of_mem_drop hback
    rw [List.mem_take_iff_idxOf_lt hmem] at hfront
    exact ⟨hmem, Nat.not_lt.mp hfront⟩
  · rintro ⟨hmem, hplace⟩
    have hfront : occurrence.ident ∉ names.take place := by
      rw [List.mem_take_iff_idxOf_lt hmem]
      exact Nat.not_lt.mpr hplace
    refine ⟨hfront, ?_⟩
    rw [← List.take_append_drop place names, List.mem_append] at hmem
    exact hmem.resolve_left hfront

/-- At the place of a name or behind it, the name first stands at the place exactly if it is the
name there. -/
theorem idxOf_eq_iff {names : List Ident} {place : Nat} {own ident : Ident}
    (hown : names[place]? = some own) (hmem : ident ∈ names) (hplace : place ≤ names.idxOf ident) :
    names.idxOf ident = place ↔ ident = own := by
  constructor
  · rintro rfl
    rw [List.getElem?_idxOf hmem] at hown
    exact Option.some.inj hown
  · rintro rfl
    have hnext : ident ∈ names.take (place + 1) :=
      List.mem_of_getElem? ((List.getElem?_take_of_lt (Nat.lt_succ_self place)).trans hown)
    rw [List.mem_take_iff_idxOf_lt hmem] at hnext
    omega

end Occurrence

namespace NamedField

/-- What is wrong with the words in the default of the field at the given place, in the order in
which they are looked at. -/
def offences (names : List Ident) (place : Nat) (field : NamedField) : List Diagnostic :=
  field.fallback?.toList.flatMap fun fallback =>
    (Occurrence.ofExpression fallback).filterMap fun occurrence =>
      (occurrence.offence? names place field.ident.value).map (⟨·, occurrence.region⟩)

/-- The names of fields. -/
def names (fields : List NamedField) : List Ident := fields.map (·.ident.value)

end NamedField

namespace Parameter

variable {fields : List NamedField} {field : NamedField} {place : Nat}

theorem ofFieldsFrom_eq_map (start : Nat) (fields : List NamedField) :
    ofFieldsFrom start fields =
      (fields.zipIdx start).map fun indexed => ofField indexed.2 indexed.1 := by
  induction fields generalizing start with
  | nil => rfl
  | cons field rest ih => rw [ofFieldsFrom, List.zipIdx_cons, List.map_cons, ih]

/-- The first parameter of a name is at the first place of the name. -/
theorem index_of_find? {ident : Ident} {referenced : Parameter} {start : Nat}
    (h : ((ofFieldsFrom start fields).find? fun parameter => parameter.name.value = ident) =
      some referenced) :
    ident ∈ NamedField.names fields ∧
      referenced.index = start + (NamedField.names fields).idxOf ident := by
  induction fields generalizing start with
  | nil => cases h
  | cons field rest ih =>
    rw [NamedField.names, List.map_cons, List.mem_cons]
    by_cases hname : field.ident.value = ident
    · rw [ofFieldsFrom, List.find?_cons, ofField, decide_eq_true hname] at h
      obtain rfl := Option.some.inj h
      rw [hname, List.idxOf_cons_self]
      exact ⟨.inl rfl, rfl⟩
    · rw [ofFieldsFrom, List.find?_cons, ofField, decide_eq_false hname] at h
      obtain ⟨hmem, hindex⟩ := ih h
      rw [List.idxOf_cons_ne _ hname, hindex]
      exact ⟨.inr hmem, Nat.succ_add_eq_add_succ _ _⟩

/-- A name of which no parameter is found is the name of no field. -/
theorem notMem_of_find? {ident : Ident} {start : Nat}
    (h : ((ofFieldsFrom start fields).find? fun parameter => parameter.name.value = ident) =
      none) : ident ∉ NamedField.names fields := by
  have hnames := map_ofFieldsFrom (·.name.value) (fun _ _ => rfl) start fields
  intro hmem
  rw [NamedField.names, show fields.map (·.ident.value) = _ from hnames.symm] at hmem
  obtain ⟨parameter, hparameter, hname⟩ := List.mem_map.mp hmem
  exact List.find?_eq_none.mp h parameter hparameter (decide_eq_true hname)

/-- A word is judged by what it says, and by where its name first stands. -/
theorem judge_ofFields (hfield : fields[place]? = some field) (occurrence : Occurrence) :
    judge (ofFields fields) (ofField place field) occurrence =
      (occurrence.offence? (NamedField.names fields) place field.ident.value).map
        (⟨·, occurrence.region⟩) := by
  have hown : (NamedField.names fields)[place]? = some field.ident.value := by
    rw [NamedField.names, List.getElem?_map, hfield]
    rfl
  unfold judge Occurrence.offence?
  simp only [Occurrence.isPremature_iff]
  split
  · rfl
  · cases hbound : occurrence.isBound with
    | true => simp
    | false =>
      rw [if_neg Bool.false_ne_true]
      cases hfind : (ofFields fields).find? fun parameter =>
          parameter.name.value = occurrence.ident with
      | none =>
        rw [if_neg fun h => notMem_of_find? hfind h.2.1]
        rfl
      | some referenced =>
        obtain ⟨hmem, hindex⟩ := index_of_find? hfind
        rw [Nat.zero_add] at hindex
        simp only [hindex, ofField]
        by_cases hplace : place ≤ (NamedField.names fields).idxOf occurrence.ident
        · have hitself := Occurrence.idxOf_eq_iff hown hmem hplace
          by_cases hsame : occurrence.ident = field.ident.value
          · rw [if_pos (hitself.mpr hsame), if_pos ⟨trivial, hmem, hplace⟩, if_pos hsame]
            rfl
          · have hother := mt hitself.mp hsame
            rw [if_neg hother, if_pos (by omega), if_pos ⟨trivial, hmem, hplace⟩, if_neg hsame]
            rfl
        · rw [if_neg (by omega), if_neg (by omega), if_neg fun h => hplace h.2.2]
          rfl

/-- What is wrong with the default of a field is found in its words. -/
theorem referenceDiagnosticsOf_ofFields (hfield : fields[place]? = some field) :
    referenceDiagnosticsOf (ofFields fields) (ofField place field) =
      field.offences (NamedField.names fields) place := by
  have hfallback : (ofField place field).fallback = field.fallback? := rfl
  rw [referenceDiagnosticsOf, NamedField.offences, hfallback]
  cases field.fallback? with
  | none => rfl
  | some fallback =>
    rw [Option.toList_some, List.flatMap_singleton]
    exact List.filterMap_congr fun occurrence _ => judge_ofFields hfield occurrence

/-- What is wrong with the defaults of fields, field by field. -/
theorem referenceDiagnostics_ofFields (fields : List NamedField) :
    referenceDiagnostics (ofFields fields) =
      fields.zipIdx.flatMap fun indexed =>
        indexed.1.offences (NamedField.names fields) indexed.2 := by
  calc referenceDiagnostics (ofFields fields)
      = (fields.zipIdx.map fun indexed => ofField indexed.2 indexed.1).flatMap
          (referenceDiagnosticsOf (ofFields fields)) :=
        congrArg (List.flatMap _) (ofFieldsFrom_eq_map 0 fields)
    _ = _ := by
        rw [List.flatMap_map]
        refine List.flatMap_congr fun indexed hindexed => ?_
        exact referenceDiagnosticsOf_ofFields (List.mem_zipIdx_iff_getElem?.mp hindexed)

end Parameter

/-! ## Structs that are turned away -/

namespace StructItem

/-- What is wrong with the fields of a struct: first with their helpers, then with their defaults,
each in the order of the fields. -/
def faults (fields : List NamedField) : List Diagnostic :=
  (fields.flatMap fun field => (Helper.default? field.attributes).diagnostics) ++
    fields.zipIdx.flatMap fun indexed => indexed.1.offences (NamedField.names fields) indexed.2

/-- The struct of the given named fields can be a host. -/
structure IsEligible (item : StructItem) (fields : List NamedField) : Prop where
  named : ∃ trailing, item.fields = .named fields trailing
  visible : ∀ field ∈ fields, ¬ field.visibility.IsExplicitlyPrivate
  wellFormed : ∀ field ∈ fields, ∃ fallback, Helper.default? field.attributes = .ok fallback
  /-- A default refers to earlier parameters only. The references are those that the scan finds. All
  words that stand in the default as expressions of their own are among them. -/
  ordered : ∀ place field fallback, fields[place]? = some field →
    Helper.default? field.attributes = .ok (some fallback) →
      ∀ occurrence ∈ Occurrence.ofExpression fallback,
        occurrence.ident.isWord "self" = false ∧
          ¬ occurrence.IsPremature (NamedField.names fields) place

/-- What is wrong with a struct that cannot be a host. -/
inductive IsRefused (item : StructItem) : List Diagnostic → Prop
  | unnamed (h : ∀ fields trailing, item.fields ≠ .named fields trailing) :
    IsRefused item [⟨.noPrimaryConstructor, item.ident.region⟩]
  | explicitlyPrivate {front back : List NamedField} {field : NamedField} {trailing : Bool}
    (named : item.fields = .named (front ++ field :: back) trailing)
    (first : ∀ earlier ∈ front, ¬ earlier.visibility.IsExplicitlyPrivate)
    (hprivate : field.visibility.IsExplicitlyPrivate) :
    IsRefused item [⟨.privateConstructor, Tree.regionAll field.visibility.trees⟩]
  | faulty {fields : List NamedField} {trailing : Bool}
    (named : item.fields = .named fields trailing)
    (visible : ∀ field ∈ fields, ¬ field.visibility.IsExplicitlyPrivate)
    (found : faults fields ≠ []) : IsRefused item (faults fields)

variable {item : StructItem} {fields : List NamedField}

/-- In the default of a field of an eligible struct, no `self` stands as an expression of its own,
and a word that no binder around it binds is the name of an earlier field, if it is one of a field. -/
theorem IsEligible.earlier_of_stands (h : item.IsEligible fields) {place : Nat}
    {field : NamedField} {fallback : Tree} (hfield : fields[place]? = some field)
    (hdefault : Helper.default? field.attributes = .ok (some fallback)) {word : Located Ident}
    {binders : List Tree} (hstands : Stands word binders fallback) :
    word.value.isWord "self" = false ∧
      (word.value ∈ NamedField.names fields → (∀ binder ∈ binders, ¬ Binds word.value binder) →
        word.value ∈ (NamedField.names fields).take place) := by
  obtain ⟨occurrence, hfound, hident, -, hfree⟩ := Occurrence.exists_mem_ofExpression hstands
  obtain ⟨hself, hordered⟩ := h.ordered place field fallback hfield hdefault occurrence hfound
  rw [← hident]
  refine ⟨hself, fun hmem hunbound => ?_⟩
  by_contra hlater
  have hback : occurrence.ident ∈ (NamedField.names fields).drop place := by
    rw [← List.take_append_drop place (NamedField.names fields), List.mem_append] at hmem
    exact hmem.resolve_left hlater
  exact hordered ⟨hfree (hident ▸ hunbound), hlater, hback⟩

/-- Helpers in which nothing is wrong can be read. -/
theorem diagnostics_default?_eq_nil_iff {attributes : List Attribute} :
    (Helper.default? attributes).diagnostics = [] ↔
      ∃ fallback, Helper.default? attributes = .ok fallback := by
  have hgrounded := Helper.grounded_default? attributes
  cases hdefault : Helper.default? attributes with
  | ok fallback => exact ⟨fun _ => ⟨fallback, rfl⟩, fun _ => rfl⟩
  | error found =>
    rw [hdefault] at hgrounded
    exact ⟨fun hnone => absurd hnone hgrounded.1, fun ⟨_, h⟩ => nomatch h⟩

theorem offence?_eq_none_iff {names : List Ident} {place : Nat} {own : Ident}
    {occurrence : Occurrence} :
    occurrence.offence? names place own = none ↔
      occurrence.ident.isWord "self" = false ∧ ¬ occurrence.IsPremature names place := by
  unfold Occurrence.offence?
  split_ifs with hself hpremature
  · simp [hself]
  · simp [hpremature]
  · simp [hself, hpremature]

/-- Nothing is wrong with the default of a field, if there is one, exactly if no word in it is. -/
theorem offences_eq_nil_iff {names : List Ident} {place : Nat} {field : NamedField}
    {fallback : Option Tree} (hdefault : Helper.default? field.attributes = .ok fallback) :
    field.offences names place = [] ↔
      ∀ expression, fallback = some expression →
        ∀ occurrence ∈ Occurrence.ofExpression expression,
          occurrence.ident.isWord "self" = false ∧ ¬ occurrence.IsPremature names place := by
  have hfallback : field.fallback? = fallback := by
    rw [NamedField.fallback?, hdefault]
    rfl
  rw [NamedField.offences, hfallback]
  cases fallback with
  | none => exact iff_of_true rfl fun _ h => nomatch h
  | some expression =>
    simp only [Option.toList_some, List.flatMap_singleton, List.filterMap_eq_nil_iff,
      Option.map_eq_none_iff, offence?_eq_none_iff, Option.some.injEq, forall_eq']

/-- A struct of visible fields in which nothing is wrong can be a host. -/
theorem faults_eq_nil_iff {trailing : Bool} (hnamed : item.fields = .named fields trailing)
    (hvisible : ∀ field ∈ fields, ¬ field.visibility.IsExplicitlyPrivate) :
    faults fields = [] ↔ item.IsEligible fields := by
  rw [faults, List.append_eq_nil_iff, List.flatMap_eq_nil_iff, List.flatMap_eq_nil_iff]
  simp only [diagnostics_default?_eq_nil_iff]
  constructor
  · rintro ⟨hwell, hordered⟩
    refine ⟨⟨trailing, hnamed⟩, hvisible, hwell, fun place field fallback hfield hdefault => ?_⟩
    have hnone := hordered (field, place) (List.mem_zipIdx_iff_getElem?.mpr hfield)
    exact (offences_eq_nil_iff hdefault).mp hnone fallback rfl
  · rintro ⟨-, -, hwell, hordered⟩
    refine ⟨hwell, fun ⟨field, place⟩ hindexed => ?_⟩
    have hfield := List.mem_zipIdx_iff_getElem?.mp hindexed
    obtain ⟨fallback, hdefault⟩ := hwell field (List.mem_of_getElem? hfield)
    refine (offences_eq_nil_iff hdefault).mpr fun expression hexpression => ?_
    exact hordered place field expression hfield (hexpression ▸ hdefault)

/-- A struct can be a host, or something is wrong with it. -/
theorem eligible_or_refused (item : StructItem) :
    (∃ fields, item.IsEligible fields) ∨ ∃ found, item.IsRefused found := by
  classical
  by_cases hnamed : ∃ fields trailing, item.fields = .named fields trailing
  · obtain ⟨fields, trailing, hnamed⟩ := hnamed
    cases hfirst : fields.find? (·.visibility.IsExplicitlyPrivate) with
    | some field =>
      obtain ⟨hprivate, front, back, rfl, hfront⟩ := List.find?_eq_some_iff_append.mp hfirst
      refine .inr ⟨_, .explicitlyPrivate hnamed (fun earlier hearlier => ?_)
        (of_decide_eq_true hprivate)⟩
      simpa using hfront earlier hearlier
    | none =>
      have hvisible : ∀ field ∈ fields, ¬ field.visibility.IsExplicitlyPrivate := by
        simpa using hfirst
      by_cases hfaults : faults fields = []
      · exact .inl ⟨fields, (faults_eq_nil_iff hnamed hvisible).mp hfaults⟩
      · exact .inr ⟨_, .faulty hnamed hvisible hfaults⟩
  · push Not at hnamed
    exact .inr ⟨_, .unnamed hnamed⟩

end StructItem

/-! ## Hosts of eligible structs -/

namespace Parameter

variable {fields : List NamedField} {field : NamedField} {place : Nat}

/-- The parameter of a field of an eligible struct repeats the field, its place and its
conditions. -/
theorem exists_getElem?_ofFields {item : StructItem} (h : item.IsEligible fields)
    (hfield : fields[place]? = some field) :
    ∃ fallback, Helper.default? field.attributes = .ok fallback ∧
      (ofFields fields)[place]? = some
        { index := place
          name := field.ident
          type := field.type
          fallback
          conditions := field.attributes.filter fun attr => attr.path.isWord "cfg" } := by
  obtain ⟨fallback, hdefault⟩ := h.wellFormed field (List.mem_of_getElem? hfield)
  refine ⟨fallback, hdefault, ?_⟩
  rw [ofFields, getElem?_ofFieldsFrom, hfield, Option.map_some, Nat.zero_add, ofField, hdefault]
  rfl

end Parameter

namespace Host

variable {item : StructItem} {fields : List NamedField}

theorem fieldDiagnostics_eq_faults (fields : List NamedField) :
    fieldDiagnostics fields = StructItem.faults fields := by
  rw [fieldDiagnostics, Parameter.referenceDiagnostics_ofFields]
  rfl

/-- Visible fields are looked at one by one. -/
theorem ofStruct_of_visible {trailing : Bool} (hnamed : item.fields = .named fields trailing)
    (hvisible : ∀ field ∈ fields, ¬ field.visibility.IsExplicitlyPrivate)
    (configuration : Configuration) (rename : Option (Located Ident)) :
    ofStruct item configuration rename =
      if (StructItem.faults fields).isEmpty then
        .ok
          { item := item.withoutHelpers.constrained
            naming := .ofHost item.ident configuration rename
            parameters := Parameter.ofFields fields
            visibility := .ofFields fields }
      else .error (StructItem.faults fields) := by
  have hfields : item.primaryConstructor? = some fields := by
    rw [StructItem.primaryConstructor?, hnamed]
  rw [ofStruct, StructItem.checkConstructor_of_visible hnamed hvisible, hfields,
    ← fieldDiagnostics_eq_faults]
  rfl

/-- An eligible struct is a host. -/
theorem ofStruct_of_isEligible (h : item.IsEligible fields) (configuration : Configuration)
    (rename : Option (Located Ident)) :
    ofStruct item configuration rename = .ok
      { item := item.withoutHelpers.constrained
        naming := .ofHost item.ident configuration rename
        parameters := Parameter.ofFields fields
        visibility := .ofFields fields } := by
  obtain ⟨trailing, hnamed⟩ := h.named
  rw [ofStruct_of_visible hnamed h.visible,
    (StructItem.faults_eq_nil_iff hnamed h.visible).mpr h]
  rfl

/-- What is wrong with a struct is said, and all of it. -/
theorem ofStruct_of_isRefused {found : List Diagnostic} (h : item.IsRefused found)
    (configuration : Configuration) (rename : Option (Located Ident)) :
    ofStruct item configuration rename = .error found := by
  cases h with
  | unnamed hunnamed =>
    rw [ofStruct, StructItem.checkConstructor_of_unnamed hunnamed]
    rfl
  | explicitlyPrivate hnamed hfirst hprivate =>
    rw [ofStruct, StructItem.checkConstructor_of_named hnamed,
      ConstructorVisibility.ofFields_of_first_private hfirst hprivate]
    rfl
  | faulty hnamed hvisible hfound =>
    rw [ofStruct_of_visible hnamed hvisible, if_neg (mt List.isEmpty_iff.mp hfound)]

end Host

namespace Session

variable {item : StructItem} {fields : List NamedField}

theorem register_of_isRefused {found : List Diagnostic} (h : item.IsRefused found)
    (session : Session) (configuration : Configuration) (rename : Option (Located Ident)) :
    session.register item configuration rename = .error found := by
  rw [register, Host.ofStruct_of_isRefused h]
  rfl

theorem register_of_isEligible (h : item.IsEligible fields) (session : Session)
    (configuration : Configuration) (rename : Option (Located Ident)) :
    session.register item configuration rename =
      .ok (session.hosts.length, ⟨session.hosts ++ [
        { item := item.withoutHelpers.constrained
          naming := .ofHost item.ident configuration rename
          parameters := Parameter.ofFields fields
          visibility := .ofFields fields }]⟩) := by
  rw [register, Host.ofStruct_of_isEligible h]
  rfl

/-- A struct that is turned away is refused for what is said. -/
theorem register_eq_error_iff (session : Session) (item : StructItem)
    (configuration : Configuration) (rename : Option (Located Ident)) (found : List Diagnostic) :
    session.register item configuration rename = .error found ↔ item.IsRefused found := by
  refine ⟨fun h => ?_, fun h => register_of_isRefused h session configuration rename⟩
  rcases item.eligible_or_refused with ⟨fields, heligible⟩ | ⟨actual, hrefused⟩
  · rw [register_of_isEligible heligible] at h
    cases h
  · rw [register_of_isRefused hrefused] at h
    cases h
    exact hrefused

/-- Exactly the eligible structs are registered. -/
theorem register_eq_ok_iff (session : Session) (item : StructItem)
    (configuration : Configuration) (rename : Option (Located Ident)) :
    (∃ id later, session.register item configuration rename = .ok (id, later)) ↔
      ∃ fields, item.IsEligible fields := by
  constructor
  · rintro ⟨id, later, h⟩
    rcases item.eligible_or_refused with heligible | ⟨found, hrefused⟩
    · exact heligible
    · rw [register_of_isRefused hrefused] at h
      cases h
  · rintro ⟨fields, heligible⟩
    exact ⟨_, _, register_of_isEligible heligible session configuration rename⟩

end Session

/-- Exactly the eligible structs are registered, behind the hosts that are there, with one parameter
for each field. Any other struct is turned away with everything that is wrong with it. -/
theorem registration_exact (session : Session) (item : StructItem) (configuration : Configuration)
    (rename : Option (Located Ident)) :
    ((∃ id later, session.register item configuration rename = .ok (id, later)) ↔
      ∃ fields, item.IsEligible fields) ∧
    (∀ fields, item.IsEligible fields →
      ∃ host : Host, session.register item configuration rename =
          .ok (session.hosts.length, ⟨session.hosts ++ [host]⟩) ∧
        host.parameters.length = fields.length ∧
        ∀ (place : Nat) (field : NamedField), fields[place]? = some field →
          ∃ fallback, Helper.default? field.attributes = .ok fallback ∧
            host.parameters[place]? = some
              { index := place
                name := field.ident
                type := field.type
                fallback
                conditions := field.attributes.filter fun attr => attr.path.isWord "cfg" }) ∧
    ∀ found, session.register item configuration rename = .error found ↔
      item.IsRefused found := by
  refine ⟨session.register_eq_ok_iff item configuration rename, fun fields heligible => ?_,
    session.register_eq_error_iff item configuration rename⟩
  refine ⟨_, Session.register_of_isEligible heligible session configuration rename, ?_, ?_⟩
  · exact Parameter.length_ofFieldsFrom 0 fields
  · exact fun place field hfield => Parameter.exists_getElem?_ofFields heligible hfield

/-- The sample struct is eligible: it is registered, with a default that refers to an earlier
field. -/
theorem eligible_chain :
    (∃ fields, Sample.chain.IsEligible fields) ∧
      ∃ host : Host, Session.empty.register Sample.chain .standard none = .ok (0, ⟨[host]⟩) := by
  obtain ⟨hiff, hregistered, -⟩ := registration_exact Session.empty Sample.chain .standard none
  obtain ⟨fields, heligible⟩ := hiff.mp ⟨0, _, rfl⟩
  obtain ⟨host, hhost, -⟩ := hregistered fields heligible
  exact ⟨⟨fields, heligible⟩, host, hhost⟩

/-- The defaults are still checked when a helper is in error. -/
example :
    let refused := do
      let code ← TokenTree.ofSource?
        "struct A \x7b #[piecemeal(default = c)] a: i8, #[piecemeal(defult = 1)] b: i8, c: i8 \x7d"
      let item ← (Grammar.read (fun grammar => grammar.item) code).toOption
      match item with
      | .record struct => some ((Session.empty.register struct .standard none).diagnostics)
      | _ => none
    refused.map (·.map (·.cause)) =
      some [.unknownArgument "defult" (some "default"), .refersAhead "a" "c"] := by
  decide +kernel

end Counterpart
