import Counterpart.Proofs.BrokenTemplate
import Counterpart.Proofs.HostConditions

/-!
# The host stays as it was written

An attribute of a field is read as a helper if its path is displayed as the one word that helpers
are known by. Helpers are taken away by another test, on the words of the path. The two tests agree
on every path, raw, qualified or with a double colon in front, so exactly what was read is taken
away. Besides, the emitted struct is the annotated one, restricted to the crate, and registering it
again finds nothing left to change. In a module, this is so for every host at any depth.
-/

namespace Counterpart

/-! ## How paths are displayed -/

namespace MetaPath

/-- The path as it is displayed, with spaces around double colons. -/
def shown (path : MetaPath) : String :=
  (if path.root.isEmpty then "" else ":: ")
    ++ " :: ".intercalate (path.segments.map (·.value.text))

/-- A path with a segment whose double colon in front, if there is one, has the spacing of the
grammar. -/
def IsWritten (path : MetaPath) : Prop :=
  (path.root = [] ∨ ∃ first second : Option Region,
    path.root = Tree.opaqueTokens [.punct ':' true first, .punct ':' false second]) ∧
  path.segments ≠ []

/-- Segments behind a word are displayed behind their double colons. -/
theorem renderAll_laterParts (ident : Ident) (region : Option Region)
    (segments : List (Located Ident)) :
    TokenTree.renderAll (.word ident region :: Tree.tokensAll (laterParts segments)) =
      " :: ".intercalate (ident.text :: segments.map (·.value.text)) := by
  induction segments generalizing ident region with
  | nil => simp [laterParts, TokenTree.renderAll, TokenTree.render]
  | cons segment rest ih =>
    have hparts : Tree.tokensAll (laterParts (segment :: rest)) =
        .punct ':' true none :: .punct ':' false none
          :: .word segment.value segment.region :: Tree.tokensAll (laterParts rest) := by
      simp [laterParts, Tree.operator, operatorTokens, Tree.tokens, Tree.name]
    rw [List.map_cons, String.intercalate_cons_cons, ← ih segment.value segment.region, hparts]
    simp only [TokenTree.renderAll, TokenTree.render, TokenTree.isJoint, String.append_assoc,
      Bool.false_eq_true, if_false, if_true]
    rfl

/-- A written path is displayed by its tokens. -/
theorem renderAll_tokens_tree {path : MetaPath} (h : path.IsWritten) :
    TokenTree.renderAll path.tree.tokens = path.shown := by
  obtain ⟨root, segments⟩ := path
  obtain ⟨hroot, hsegments⟩ := h
  cases segments with
  | nil => exact absurd rfl hsegments
  | cons first rest =>
    have htokens : (MetaPath.tree ⟨root, first :: rest⟩).tokens =
        Tree.tokensAll root
          ++ .word first.value first.region :: Tree.tokensAll (laterParts rest) := by
      simp [tree, Tree.tokens, Tree.name]
    rw [htokens, shown, List.map_cons, ← renderAll_laterParts first.value first.region rest]
    rcases hroot with rfl | ⟨left, right, rfl⟩
    · simp
    · rw [Tree.tokensAll_opaqueTokens]
      simp only [List.cons_append, List.nil_append, TokenTree.renderAll, TokenTree.render,
        TokenTree.isJoint, String.append_assoc, Bool.false_eq_true, if_false, if_true]
      rfl

/-- A path is displayed as a word without spaces and number signs exactly if it is that one word. -/
theorem shown_eq_iff {path : MetaPath} {word : String} (hsome : word ≠ "")
    (hnospace : ' ' ∉ word.toList) (hnosign : '#' ∉ word.toList) :
    path.shown = word ↔ path.isWord word = true := by
  have hspace {text : String} (h : ' ' ∈ text.toList) : text ≠ word :=
    fun same => hnospace (same ▸ h)
  obtain ⟨root, segments⟩ := path
  cases hroot : root.isEmpty with
  | false =>
    simp only [shown, isWord, hroot, Bool.false_and, Bool.false_eq_true, iff_false, if_false]
    exact hspace (by simp)
  | true =>
    simp only [shown, isWord, hroot, if_true, Bool.true_and, String.empty_append]
    rcases segments with _ | ⟨segment, _ | ⟨second, rest⟩⟩
    · simpa using hsome.symm
    · rw [List.map_singleton, String.intercalate_singleton, Ident.isWord_iff]
      obtain ⟨⟨name, isRaw⟩, region⟩ := segment
      cases isRaw with
      | false => simp [Ident.text, Ident.plain]
      | true =>
        simp only [Ident.text, Ident.plain, if_true, Ident.mk.injEq, Bool.true_eq_false, and_false,
          iff_false]
        exact fun same => hnosign (same ▸ by simp)
    · simp only [Bool.false_eq_true, iff_false]
      exact hspace (by simp)

end MetaPath

/-- The leaves of an operator of two characters have its own spacing, whatever stands behind it. -/
theorem Parser.eq_of_operatorLeaves? {first last : Char} {tokens rest : List TokenTree}
    {leaves : List Tree} (h : operatorLeaves? [first, last] tokens = some (leaves, rest)) :
    ∃ left right : Option Region,
      leaves = Tree.opaqueTokens [.punct first true left, .punct last false right] := by
  match tokens with
  | .punct character joint left :: .punct next nextJoint right :: others =>
    simp only [operatorLeaves?] at h
    split at h
    · next hfirst =>
      split at h <;> cases h
      next hlast =>
      rw [hfirst.1, hlast.1]
      exact ⟨left, right, rfl⟩
    · cases h
  | [.punct character joint left] =>
    simp [operatorLeaves?] at h
  | .punct character joint left :: .word _ _ :: others => simp [operatorLeaves?] at h
  | .punct character joint left :: .literal _ _ :: others => simp [operatorLeaves?] at h
  | .punct character joint left :: .group _ _ _ _ :: others => simp [operatorLeaves?] at h
  | .word _ _ :: others | .literal _ _ :: others | .group _ _ _ _ :: others | [] =>
    simp [operatorLeaves?] at h

/-- Paths are read with the spacing of the grammar. -/
theorem MetaPath.isWritten_of_modulePath {cursor after : Cursor} {path : MetaPath}
    (h : Grammar.modulePath cursor = .ok (path, after)) : path.IsWritten := by
  obtain ⟨root, behind, hroot, h⟩ := Parser.exists_of_bind h
  obtain ⟨tokens, same, hahead, h⟩ := Parser.exists_of_bind h
  obtain ⟨⟨segments, open?⟩, next, -, h⟩ := Parser.exists_of_bind h
  have hwritten : root = [] ∨ ∃ first second : Option Region,
      root = Tree.opaqueTokens [.punct ':' true first, .punct ':' false second] := by
    obtain ⟨ahead, same, hlooking, hroot⟩ := Parser.exists_of_bind hroot
    cases ahead with
    | true =>
      unfold Parser.operator at hroot
      simp only [if_true] at hroot
      split at hroot
      · next leaves rest hleaves =>
        cases hroot
        exact .inr (Parser.eq_of_operatorLeaves? hleaves)
      · cases hroot
    | false =>
      cases hroot
      exact .inl rfl
  cases hnone : segments.isEmpty with
  | true =>
    simp only [hnone, if_true] at h
    obtain ⟨segment, last, -, h⟩ := Parser.exists_of_bind h
    cases h
    exact ⟨hwritten, List.cons_ne_nil _ _⟩
  | false =>
    simp only [hnone] at h
    cases open? with
    | true => cases h
    | false =>
      cases h
      exact ⟨hwritten, by simpa using hnone⟩

/-- The path of every attribute is read with this spacing. -/
theorem MetaItem.isWritten_of_metaItem {grammar : Grammar} {cursor after : Cursor} {item : MetaItem}
    (h : Grammar.metaItem grammar cursor = .ok (item, after)) : item.path.IsWritten := by
  obtain ⟨unchecked, same, -, h⟩ := Parser.exists_of_bind h
  cases unchecked with
  | true =>
    obtain ⟨word, next, -, h⟩ := Parser.exists_of_bind h
    obtain ⟨path, last, hpath, h⟩ := Parser.exists_of_bind h
    obtain ⟨arguments, behind, -, h⟩ := Parser.exists_of_bind h
    cases h
    cases hpath
    exact ⟨.inl rfl, List.cons_ne_nil _ _⟩
  | false =>
    obtain ⟨path, behind, hpath, h⟩ := Parser.exists_of_bind h
    obtain ⟨arguments, last, -, h⟩ := Parser.exists_of_bind h
    cases h
    exact MetaPath.isWritten_of_modulePath hpath

/-- So it is displayed by its tokens. -/
theorem MetaItem.renderAll_path {grammar : Grammar} {cursor after : Cursor} {item : MetaItem}
    (h : Grammar.metaItem grammar cursor = .ok (item, after)) :
    TokenTree.renderAll item.path.tree.tokens = item.path.shown :=
  MetaPath.renderAll_tokens_tree (isWritten_of_metaItem h)

/-! ## Helpers -/

namespace Helper

/-- Whether an attribute is read as a helper: its path is displayed as the word for helpers. -/
def isRead (attr : Attribute) : Bool := attr.path.shown == Attribute.markWord

/-- The default that the helpers of a field give, if they give one. -/
def defaultOf (helpers : List Attribute) : Checked (Option Tree) := do
  let items := Offer.sift names [] (helpers.flatMap offers)
  let defaults ← Checked.all (items.map fun item => item.bind readDefault)
  pure defaults.getLast?

/-- An attribute is read as a helper exactly if it is taken away as one. -/
theorem isRead_eq_isHelper (attr : Attribute) : isRead attr = attr.isHelper := by
  rw [Bool.eq_iff_iff, isRead, beq_iff_eq, Attribute.isHelper]
  exact MetaPath.shown_eq_iff (by decide) (by decide) (by decide)

/-- The default of a field is given by the attributes that are read as helpers. -/
theorem default?_eq_defaultOf (attributes : List Attribute) :
    default? attributes = defaultOf (attributes.filter isRead) := by
  rw [List.filter_congr fun attr _ => isRead_eq_isHelper attr]
  rfl

/-- Exactly the attributes that are not read as helpers are left. -/
theorem withoutHelpers_eq_filter (attributes : List Attribute) :
    Attribute.withoutHelpers attributes = attributes.filter (!isRead ·) := by
  rw [Attribute.withoutHelpers]
  exact List.filter_congr fun attr _ => by rw [isRead_eq_isHelper]

/-- Where no helper is left, there is no default and nothing is wrong. -/
theorem default?_withoutHelpers (attributes : List Attribute) :
    default? (Attribute.withoutHelpers attributes) = .ok none := by
  have hnone : (Attribute.withoutHelpers attributes).filter Attribute.isHelper = [] := by
    rw [Attribute.withoutHelpers, List.filter_filter, List.filter_eq_nil_iff]
    simp
  rw [default?, hnone]
  rfl

end Helper

/-! ## The emitted struct -/

/-- A field that loses exactly the attributes that are read as helpers. -/
structure NamedField.Survives (before after : NamedField) : Prop where
  visibility : after.visibility = before.visibility
  ident : after.ident = before.ident
  type : after.type = before.type
  read : Helper.default? before.attributes =
    Helper.defaultOf (before.attributes.filter Helper.isRead)
  attributes : after.attributes = before.attributes.filter (!Helper.isRead ·)

/-- A struct that loses exactly what is read as helpers of its fields, and that is restricted to the
crate unless it was before. -/
structure StructItem.Survives (before after : StructItem) : Prop where
  visibility : after.visibility = before.visibility
  ident : after.ident = before.ident
  generics : after.generics = before.generics
  fields : ∃ old new trailing, before.fields = .named old trailing ∧
    after.fields = .named new trailing ∧ List.Forall₂ NamedField.Survives old new
  restricted : (∃ attr ∈ before.attributes, attr.path.isWord "non_exhaustive" = true) →
    after.attributes = before.attributes
  free : (∀ attr ∈ before.attributes, attr.path.isWord "non_exhaustive" = false) →
    after.attributes = before.attributes ++ [.ofWord "non_exhaustive"]

/-- A struct that every session registers as it is. -/
def StructItem.IsSettled (item : StructItem) : Prop :=
  ∀ (session : Session) (configuration : Configuration) (rename : Option (Located Ident)),
    ∃ id later host, session.register item configuration rename = .ok (id, later) ∧
      later.host? id = some host ∧ host.item = item

/-- What is emitted for a struct begins with the struct itself. -/
structure Emission.KeepsHost (emission : Emission) (before : StructItem) : Prop where
  survives : before.Survives emission.host
  settled : emission.host.IsSettled

namespace StructItem

variable {item : StructItem}

/-- The form in which a struct is emitted keeps what it should keep. -/
theorem survives_constrained {fields : List NamedField}
    (h : item.primaryConstructor? = some fields) :
    item.Survives item.withoutHelpers.constrained where
  visibility := by unfold constrained; split <;> rfl
  ident := by unfold constrained; split <;> rfl
  generics := by unfold constrained; split <;> rfl
  fields := by
    obtain ⟨trailing, hfields⟩ := named_of_primaryConstructor? h
    refine ⟨fields, fields.map (·.withoutHelpers), trailing, hfields, ?_, ?_⟩
    · rw [fields_constrained, withoutHelpers, hfields]
      rfl
    · rw [List.forall₂_map_right_iff, List.forall₂_same]
      exact fun field _ => ⟨rfl, rfl, rfl, Helper.default?_eq_defaultOf _,
        Helper.withoutHelpers_eq_filter _⟩
  restricted := fun h => by
    have hconstrained : item.withoutHelpers.isConstrained = true := List.any_eq_true.mpr h
    rw [constrained, if_pos hconstrained]
    rfl
  free := fun h => by
    have hfree : item.withoutHelpers.isConstrained ≠ true := fun hconstrained => by
      obtain ⟨attr, hattr, hword⟩ := List.any_eq_true.mp hconstrained
      rw [h attr hattr] at hword
      cases hword
    rw [constrained, if_neg hfree]
    rfl

/-- Fields without helpers have neither defaults nor anything wrong with them. -/
theorem fieldDiagnostics_withoutHelpers (fields : List NamedField) :
    Host.fieldDiagnostics (fields.map (·.withoutHelpers)) = [] := by
  have hhelpers : Parameter.helperDiagnostics (fields.map (·.withoutHelpers)) = [] := by
    simp [Parameter.helperDiagnostics, NamedField.withoutHelpers, Helper.default?_withoutHelpers,
      Checked.diagnostics]
  have hreferences :
      Parameter.referenceDiagnostics (Parameter.ofFields (fields.map (·.withoutHelpers))) = [] := by
    rw [Parameter.referenceDiagnostics, List.flatMap_eq_nil_iff]
    intro parameter hparameter
    obtain ⟨place, hplace⟩ := List.getElem?_of_mem hparameter
    rw [Parameter.ofFields, Parameter.getElem?_ofFieldsFrom] at hplace
    obtain ⟨field, hfield, rfl⟩ := Option.map_eq_some_iff.mp hplace
    rw [List.getElem?_map] at hfield
    obtain ⟨written, -, rfl⟩ := Option.map_eq_some_iff.mp hfield
    simp [Parameter.referenceDiagnosticsOf, Parameter.ofField, NamedField.withoutHelpers,
      Helper.default?_withoutHelpers, Except.toOption]
  rw [Host.fieldDiagnostics, hhelpers, hreferences, List.nil_append]

/-- Helpers may be taken away before or after a struct is restricted to the crate. -/
theorem withoutHelpers_constrained (item : StructItem) :
    item.constrained.withoutHelpers = item.withoutHelpers.constrained := by
  have hsame : item.withoutHelpers.isConstrained = item.isConstrained := rfl
  unfold constrained
  rw [hsame]
  split <;> rfl

/-- The form in which a host is emitted is registered as it is. -/
theorem isSettled_of_ofStruct {configuration : Configuration} {rename : Option (Located Ident)}
    {host : Host} (h : Host.ofStruct item configuration rename = .ok host) :
    host.item.IsSettled := by
  obtain ⟨fields, hfields, rfl⟩ := Host.eq_of_ofStruct h
  have hcheck := Host.checkConstructor_of_ofStruct h
  intro session configuration rename
  have hconstructor : item.withoutHelpers.constrained.primaryConstructor? =
      some (fields.map (·.withoutHelpers)) := by
    obtain ⟨trailing, hnamed⟩ := named_of_primaryConstructor? hfields
    rw [primaryConstructor?, fields_constrained, withoutHelpers, hnamed]
    rfl
  have hvisibility : ConstructorVisibility.ofFields (fields.map (·.withoutHelpers)) =
      ConstructorVisibility.ofFields fields := by
    rw [ConstructorVisibility.ofFields, List.map_map]
    rfl
  have hchecked : item.withoutHelpers.constrained.checkConstructor = .ok () := by
    rw [← hcheck, checkConstructor, checkConstructor, hconstructor, hfields]
    simp only [hvisibility]
  have hhost : Host.ofStruct item.withoutHelpers.constrained configuration rename =
      .ok
        { item := item.withoutHelpers.constrained
          naming := .ofHost item.withoutHelpers.constrained.ident configuration rename
          parameters := Parameter.ofFields (fields.map (·.withoutHelpers))
          visibility := .ofFields (fields.map (·.withoutHelpers)) } := by
    rw [Host.ofStruct, hchecked]
    simp only [hconstructor, bind, Except.bind, pure, Except.pure]
    rw [fieldDiagnostics_withoutHelpers, withoutHelpers_constrained, withoutHelpers_idem,
      constrained_idem]
    rfl
  obtain ⟨host, hitem, hhost⟩ : ∃ host : Host, host.item = item.withoutHelpers.constrained ∧
      Host.ofStruct item.withoutHelpers.constrained configuration rename = .ok host :=
    ⟨_, rfl, hhost⟩
  refine ⟨session.hosts.length, ⟨session.hosts ++ [host]⟩, host, ?_,
    List.getElem?_concat_length, hitem⟩
  rw [Session.register, hhost]
  rfl

end StructItem

/-- What is emitted for a struct begins with it. -/
theorem EmitsAlone.keepsHost {struct : StructItem} {configuration : Configuration}
    {rename : Option (Located Ident)} {emission : Emission}
    (h : EmitsAlone struct configuration rename emission) : emission.KeepsHost struct := by
  obtain ⟨host, hhost, hemission⟩ := Expansion.emitsAlone_iff.mp h
  have hassembled := (Host.numbered_of_ofStruct hhost).emission_eq_assembled hemission
  refine ⟨?_, by rw [hassembled]; exact StructItem.isSettled_of_ofStruct hhost⟩
  obtain ⟨fields, hfields, hmade⟩ := Host.eq_of_ofStruct hhost
  rw [hassembled]
  change struct.Survives host.item
  rw [hmade]
  exact StructItem.survives_constrained hfields

/-! ## Hosts at any depth -/

/-- The attributes without the first marker among them. -/
def Attribute.LosesMarker (before after : List Attribute) : Prop :=
  ∃ earlier marker later, before = earlier ++ marker :: later ∧ after = earlier ++ later ∧
    marker.isMarker = true ∧ ∀ attr ∈ earlier, attr.isMarker = false

/-- A marker that is found is the first one. -/
theorem Attribute.losesMarker_of_takeMarker? {attributes rest : List Attribute}
    {marker : Attribute} (h : takeMarker? attributes = some (marker, rest)) :
    LosesMarker attributes rest := by
  induction attributes generalizing rest with
  | nil => cases h
  | cons attr others ih =>
    rw [takeMarker?] at h
    split at h
    · next hmarker =>
      cases h
      exact ⟨[], _, _, rfl, rfl, hmarker, List.forall_mem_nil _⟩
    · next hnone =>
      obtain ⟨⟨found, remaining⟩, hfound, htaken⟩ := Option.map_eq_some_iff.mp h
      cases htaken
      obtain ⟨earlier, marker, later, rfl, rfl, hmarker, hearlier⟩ := ih hfound
      refine ⟨_ :: earlier, marker, later, rfl, rfl, hmarker, ?_⟩
      exact List.forall_mem_cons.mpr ⟨by simpa using hnone, hearlier⟩

mutual

/-- What an item inside of a marked module leaves. A marked struct leaves the items that are emitted
for it, of which the first is the struct itself. -/
inductive Item.Leaves : Item → List Item → Prop
  | unmarked {item : Item} (hmodule : item.isModule = false)
      (hmarker : ∀ attr ∈ item.attributes, attr.isMarker = false) : Leaves item [item]
  | host {struct : StructItem} {others : List Attribute} {emission : Emission}
      (hmarker : Attribute.LosesMarker struct.attributes others)
      (hkept : emission.KeepsHost { struct with attributes := others }) :
      Leaves (.record struct) (.record emission.host :: emission.companions)
  | outlineModule {attributes : List Attribute} {head : List Tree} :
      Leaves (.outlineModule attributes head)
        [.outlineModule (Attribute.withoutMarker attributes) head]
  | inlineModule {attributes : List Attribute} {head : List Tree}
      {opening closing : Option Region} {content left : List Item}
      (hcontent : LeaveAll content left) :
      Leaves (.inlineModule attributes head opening closing content)
        [.inlineModule (Attribute.withoutMarker attributes) head opening closing left]

/-- What the items of a module leave, in their order. -/
inductive Item.LeaveAll : List Item → List Item → Prop
  | nil : LeaveAll [] []
  | cons {item : Item} {rest first later : List Item} (hitem : Leaves item first)
      (hrest : LeaveAll rest later) : LeaveAll (item :: rest) (first ++ later)

end

namespace Expansion

variable {configuration : Configuration}

theorem leaves_of_unfold_leaf {item : Item} {unfolded : Unfolded} (hmodule : item.isModule = false)
    (h : unfold configuration item = .ok unfolded) : item.Leaves unfolded.items := by
  rw [unfold_of_isModule_eq_false hmodule] at h
  cases hmarker : Attribute.takeMarker? item.attributes with
  | none =>
    rw [hmarker] at h
    cases h
    exact .unmarked hmodule ((Attribute.takeMarker?_eq_none_iff _).mp hmarker)
  | some taken =>
    obtain ⟨marker, others⟩ := taken
    rw [hmarker] at h
    obtain ⟨arguments, -, h⟩ := Generated.bind_eq_ok_iff.mp h
    obtain ⟨emission, hemission, h⟩ := Generated.bind_eq_ok_iff.mp h
    cases h
    obtain ⟨struct, hstruct, halone⟩ := emissionOf_eq_ok_iff.mp hemission
    cases item <;> cases hstruct
    exact .host (Attribute.losesMarker_of_takeMarker? hmarker) halone.keepsHost

mutual

/-- An item that is unfolded leaves what it becomes. -/
theorem leaves_of_unfold : ∀ {configuration : Configuration} (item : Item) {unfolded : Unfolded},
    unfold configuration item = .ok unfolded → item.Leaves unfolded.items
  | _, .outlineModule attributes head, unfolded, h => by
    cases h
    exact .outlineModule
  | _, .inlineModule attributes head opening closing content, unfolded, h => by
    obtain ⟨inner, -, items, hitems, rfl⟩ := unfold_inlineModule_eq_ok_iff.mp h
    exact .inlineModule (leaveAll_of_unfoldAll content hitems)
  | _, .record _, _, h => leaves_of_unfold_leaf rfl h
  | _, .enumeration _, _, h => leaves_of_unfold_leaf rfl h
  | _, .unionType _, _, h => leaves_of_unfold_leaf rfl h
  | _, .other _, _, h => leaves_of_unfold_leaf rfl h
  | _, .verbatim _, _, h => leaves_of_unfold_leaf rfl h

/-- So do the items of a module. -/
theorem leaveAll_of_unfoldAll : ∀ {configuration : Configuration} (items : List Item)
    {unfolded : List Unfolded}, Host.gather (unfoldAll configuration items) = .ok unfolded →
      Item.LeaveAll items (Unfolded.itemsAll unfolded)
  | _, [], unfolded, h => by
    cases h
    exact .nil
  | _, item :: rest, unfolded, h => by
    obtain ⟨first, later, hfirst, hlater, rfl⟩ := Host.gather_cons_eq_ok_iff.mp h
    exact .cons (leaves_of_unfold item hfirst) (leaveAll_of_unfoldAll rest hlater)

end

end Expansion

/-- An expansion that succeeds is that of a struct or of a module with its content. The code for a
struct begins with the struct: with the same visibility, name, generics and fields, less the
attributes of fields that are read as helpers, and restricted to the crate. In a module, a marked
struct leaves the same, besides its first marker, at any depth; what is not marked stays. Every
emitted struct is registered again as it is. -/
theorem host_survives {base : Configuration} {arguments : MarkerArguments} {item : Item}
    {tokens : List TokenTree} (h : Expansion.ofItem base arguments item = .ok tokens) :
    (∃ (struct : StructItem) (emission : Emission),
      item = .record struct ∧ emission.KeepsHost struct ∧
      tokens = (Item.record emission.host :: emission.companions).flatMap Item.tokens) ∨
    (∃ attributes head opening closing content left,
      item = .inlineModule attributes head opening closing content ∧
      Item.LeaveAll content left ∧
      tokens = (Item.inlineModule attributes head opening closing left).tokens) := by
  cases hmodule : item.isModule with
  | false =>
    rw [Expansion.ofItem_of_isModule_eq_false hmodule] at h
    cases hemission : Expansion.emissionAlone base arguments item with
    | error reason =>
      rw [hemission] at h
      cases h
    | ok emission =>
      rw [hemission] at h
      cases h
      obtain ⟨struct, rfl, halone⟩ := Expansion.emissionOf_eq_ok_iff.mp hemission
      refine .inl ⟨struct, emission, rfl, halone.keepsHost, ?_⟩
      obtain ⟨host, hhost, hok⟩ := Expansion.emitsAlone_iff.mp halone
      rw [(Host.numbered_of_ofStruct hhost).emission_eq_assembled hok]
      exact host.tokens_items_assembled.symm
  | true =>
    cases item with
    | inlineModule attributes head opening closing content =>
      rw [Expansion.ofItem_inlineModule] at h
      obtain ⟨inner, -, h⟩ := Generated.bind_eq_ok_iff.mp h
      obtain ⟨unfolded, hunfolded, h⟩ := Generated.bind_eq_ok_iff.mp h
      cases h
      have hassembled := Expansion.isAssembledAll_of_unfoldAll content hunfolded
      refine .inr ⟨attributes, head, opening, closing, content, Unfolded.itemsAll unfolded, rfl,
        Expansion.leaveAll_of_unfoldAll content hunfolded, ?_⟩
      rw [Unfolded.item, Item.tokens_inlineModule, Item.tokens_inlineModule,
        Unfolded.tokens_itemsAll unfolded hassembled]
    | outlineModule attributes head =>
      rw [Expansion.ofItem_outlineModule] at h
      obtain ⟨inner, -, h⟩ := Generated.bind_eq_ok_iff.mp h
      cases h
    | record | enumeration | unionType | other | verbatim => cases hmodule

/-- The sample struct, in a module, survives without its marker and with its condition. -/
theorem host_survives_gatedModule : ∃ tokens left,
    Expansion.ofItem .standard .none Sample.gatedModule = .ok tokens ∧
    Item.LeaveAll
      [.record { Sample.chain with attributes := [Sample.never, .ofWord Attribute.markWord] }]
      left ∧
    tokens =
      (Item.inlineModule [] [Tree.word "mod", Tree.word "sample"] none none left).tokens := by
  obtain ⟨tokens, htokens⟩ := Sample.exists_ofItem_gatedModule
  rcases host_survives htokens with
    ⟨struct, emission, hitem, -⟩ | ⟨_, _, _, _, _, left, hitem, hleft, hwritten⟩
  · cases hitem
  · cases hitem
    exact ⟨tokens, left, htokens, hleft, hwritten⟩

end Counterpart
