import Counterpart.Proofs.ScannedDeclarations

/-!
# Items that a scan covers

Readers of the members of traits, implementations and foreign blocks, and of all items. What has no
meaning is kept as tokens that the check of an expression does not look into, so it is covered.
-/

set_option mvcgen.warning false

open Std.Do Counterpart.Occurrence Counterpart.Scan Counterpart.Parser

namespace Counterpart

variable [Scan]

@[grind ←] theorem OtherItem.coversAll_trees {attributes : List Attribute} {head : List Tree}
    {body : Option ItemBody} (hattributes : ∀ attr ∈ attributes, Covers attr.tree)
    (hhead : CoversAll head) (hbody : ∀ own ∈ body, ItemBody.Covered own) :
    CoversAll (OtherItem.mk attributes head body).trees := by
  have houter := coversAll_outer hattributes
  have hinner := coversAttributes_inner hattributes
  cases body with
  | none => simpa [OtherItem.trees] using ⟨houter, hhead⟩
  | some body =>
    have hcontent := hbody body rfl
    rw [ItemBody.Covered] at hcontent
    rw [OtherItem.trees]
    split at hcontent
    · next hblock => grind -ring -linarith
    · next hplain => grind -ring -linarith

@[grind ←] theorem OtherItem.coversAll_trees_some {attributes inner : List Attribute}
    {head : List Tree} {body : ItemBody} (hattributes : ∀ attr ∈ attributes, Covers attr.tree)
    (hinner : ∀ attr ∈ inner, Covers attr.tree) (hhead : CoversAll head) (hbody : body.Covered) :
    CoversAll (OtherItem.mk (attributes ++ inner) head (some body)).trees := by
  refine OtherItem.coversAll_trees (fun attr hattr => ?_) hhead (by simpa using hbody)
  exact (List.mem_append.mp hattr).elim (hattributes attr) (hinner attr)

@[grind norm] theorem coversAll_treesAll {items : List Item} :
    CoversAll (Item.treesAll items) ↔ ∀ item ∈ items, CoversAll item.trees := by
  induction items with
  | nil => simp [Item.treesAll]
  | cons item rest ih =>
    rw [Item.treesAll, coversAll_cons, ih, covers_item, List.forall_mem_cons]

omit [Scan] in
@[grind norm] theorem Item.trees_record {item : StructItem} :
    (Item.record item).trees = item.trees := by
  rw [Item.trees]

omit [Scan] in
@[grind norm] theorem Item.trees_enumeration {item : EnumItem} :
    (Item.enumeration item).trees = item.trees := by
  rw [Item.trees]

omit [Scan] in
@[grind norm] theorem Item.trees_unionType {item : UnionItem} :
    (Item.unionType item).trees = item.trees := by
  rw [Item.trees]

omit [Scan] in
@[grind norm] theorem Item.trees_other {item : OtherItem} :
    (Item.other item).trees = item.trees := by
  rw [Item.trees]

@[grind ←] theorem Item.coversAll_outlineModule {attributes : List Attribute} {head : List Tree}
    (hattributes : ∀ attr ∈ attributes, Covers attr.tree) (hhead : CoversAll head) :
    CoversAll (Item.outlineModule attributes head).trees := by
  rw [Item.trees, coversAll_append]
  exact ⟨coversAll_outer hattributes, hhead⟩

@[grind ←] theorem Item.coversAll_inlineModule {attributes inner : List Attribute}
    {head : List Tree} {opening closing : Option Region} {content : List Item}
    (hattributes : ∀ attr ∈ attributes, Covers attr.tree)
    (hinner : ∀ attr ∈ inner, Covers attr.tree) (hhead : CoversAll head)
    (hcontent : ∀ item ∈ content, CoversAll item.trees) :
    CoversAll (Item.inlineModule (attributes ++ inner) head opening closing content).trees := by
  have hall : ∀ attr ∈ attributes ++ inner, Covers attr.tree := fun attr hattr =>
    (List.mem_append.mp hattr).elim (hattributes attr) (hinner attr)
  have houter := coversAll_outer hall
  have hinside := coversAttributes_inner hall
  rw [Item.trees]
  grind -ring -linarith

@[simp, grind norm] theorem Item.coversAll_verbatim {tokens : List TokenTree} :
    CoversAll (Item.verbatim tokens).trees ↔ True := by
  rw [Item.trees]
  exact coversAll_opaqueTokens

@[simp, grind norm] theorem findsCall_metaPath {path : MetaPath} : FindsCall path.tree ↔ True :=
  iff_true_intro (findsCall_of_kind MetaPath.isKind_tree)

namespace Grammar

variable (grammar : Grammar) [Sound grammar]

/-! ## Members -/

@[spec] theorem macroItem_spec (isItem : Bool) (c₀ : Cursor) :
    ⦃fun c => ⌜c = c₀⌝⦄ macroItem isItem ⦃⇓? v c => ⌜Reads c₀ (CoversAll v) c⌝⦄ := by
  mvcgen [macroItem]
  all_goals grind -ring -linarith

@[spec] theorem typeDeclaration_spec (side : ClauseSide) (c₀ : Cursor) :
    ⦃fun c => ⌜c = c₀⌝⦄ typeDeclaration grammar side
      ⦃⇓? v c => ⌜Reads c₀ (CoversAll v.1) c⌝⦄ := by
  mvcgen [typeDeclaration, separatedUntil_goes_spec]
  all_goals refine fun hread => ⟨?_, fun hseen => ⟨?_, ?_⟩⟩
  all_goals grind -ring -linarith

@[spec] theorem constDeclaration_spec (c₀ : Cursor) :
    ⦃fun c => ⌜c = c₀⌝⦄ constDeclaration grammar
      ⦃⇓? v c => ⌜Reads c₀ (CoversAll v.1) c⌝⦄ := by
  mvcgen [constDeclaration]
  all_goals grind -ring -linarith

@[spec] theorem memberFunction_spec (attributes : List Attribute) (c₀ : Cursor) :
    ⦃fun c => ⌜c = c₀⌝⦄ memberFunction grammar attributes
      ⦃⇓? v c => ⌜Reads c₀ ((∀ attr ∈ attributes, Covers attr.tree) → CoversAll v) c⌝⦄ := by
  mvcgen [memberFunction]
  all_goals grind -ring -linarith

@[spec] theorem settle_spec (start : List TokenTree) (parts : List Tree) (isMeant : Bool)
    (c₀ : Cursor) :
    ⦃fun c => ⌜c = c₀⌝⦄ settle start parts isMeant
      ⦃⇓? v c => ⌜c = c₀ ∧ ((isMeant = true → CoversAll parts) → CoversAll v)⌝⦄ := by
  mvcgen [settle]
  all_goals grind -ring -linarith

@[spec] theorem traitMember_spec (c₀ : Cursor) :
    ⦃fun c => ⌜c = c₀⌝⦄ traitMember grammar ⦃⇓? v c => ⌜Runs c₀ (CoversAll v) c⌝⦄ := by
  mvcgen [traitMember]
  all_goals grind -ring -linarith

@[spec] theorem implMember_spec (c₀ : Cursor) :
    ⦃fun c => ⌜c = c₀⌝⦄ implMember grammar ⦃⇓? v c => ⌜Runs c₀ (CoversAll v) c⌝⦄ := by
  mvcgen [implMember]
  all_goals grind -ring -linarith

@[spec] theorem definingValue_spec (c₀ : Cursor) :
    ⦃fun c => ⌜c = c₀⌝⦄ definingValue grammar ⦃⇓? v c => ⌜Lists c₀ (CoversAll v) c⌝⦄ := by
  mvcgen [definingValue]
  all_goals grind -ring -linarith

@[spec] theorem staticItem_spec (c₀ : Cursor) :
    ⦃fun c => ⌜c = c₀⌝⦄ staticItem grammar ⦃⇓? v c => ⌜Reads c₀ (CoversAll v.1) c⌝⦄ := by
  mvcgen [staticItem]
  all_goals grind -ring -linarith

@[spec] theorem foreignStatic_spec (c₀ : Cursor) :
    ⦃fun c => ⌜c = c₀⌝⦄ foreignStatic grammar ⦃⇓? v c => ⌜Reads c₀ (CoversAll v.1) c⌝⦄ := by
  mvcgen [foreignStatic]
  all_goals grind -ring -linarith

@[spec] theorem foreignMember_spec (c₀ : Cursor) :
    ⦃fun c => ⌜c = c₀⌝⦄ foreignMember grammar ⦃⇓? v c => ⌜Runs c₀ (CoversAll v) c⌝⦄ := by
  mvcgen [foreignMember]
  all_goals grind -ring -linarith

@[spec] theorem members_spec {member : Parser (List Tree)}
    (hentry : ∀ c₀, ⦃fun c => ⌜c = c₀⌝⦄ member ⦃⇓? v c => ⌜Runs c₀ (CoversAll v) c⌝⦄)
    (c₀ : Cursor) :
    ⦃fun c => ⌜c = c₀⌝⦄ members grammar member
      ⦃⇓? v c => ⌜Closes c₀ ((∀ attr ∈ v.1, Covers attr.tree) ∧ ItemBody.Covered v.2) c⌝⦄ := by
  have hinside := inside_spec .brace fun v : List Attribute × List Tree =>
    (∀ attr ∈ v.1, Covers attr.tree) ∧ CoversAll v.2
  mvcgen [members, hinside, many_runs_spec, hentry]
  all_goals grind -ring -linarith

/-! ## The remaining items -/

theorem useTreeRule_spec (rooted : Bool) (c₀ : Cursor) :
    ⦃fun c => ⌜c = c₀⌝⦄ useTreeRule grammar rooted ⦃⇓? v c => ⌜Reads c₀ (Covers v) c⌝⦄ := by
  mvcgen [useTreeRule]
  all_goals grind -ring -linarith

@[spec] theorem implRule_spec (attributes : List Attribute) (c₀ : Cursor) :
    ⦃fun c => ⌜c = c₀⌝⦄ implRule grammar attributes
      ⦃⇓? v c => ⌜Reads c₀ ((∀ attr ∈ attributes, Covers attr.tree) → CoversAll v.1.trees) c⌝⦄ := by
  mvcgen [implRule]
  all_goals grind -ring -linarith

@[spec] theorem supertraits_spec (constants : Bool) (stop : List TokenTree → Bool) (c₀ : Cursor) :
    ⦃fun c => ⌜c = c₀⌝⦄ supertraits grammar constants stop
      ⦃⇓? v c => ⌜Goes c₀ (CoversAll v) c⌝⦄ := by
  mvcgen [supertraits, separatedUntil_goes_spec]
  all_goals grind -ring -linarith

@[spec] theorem traitRule_spec (attributes : List Attribute) (c₀ : Cursor) :
    ⦃fun c => ⌜c = c₀⌝⦄ traitRule grammar attributes
      ⦃⇓? v c => ⌜Reads c₀ ((∀ attr ∈ attributes, Covers attr.tree) → CoversAll v.trees) c⌝⦄ := by
  mvcgen [traitRule]
  all_goals grind -ring -linarith

@[spec] theorem moduleItems_spec (fuel : Nat) (c₀ : Cursor) :
    ⦃fun c => ⌜c = c₀⌝⦄ moduleRule.itemLoop grammar fuel
      ⦃⇓? v c => ⌜Runs c₀ (∀ item ∈ v, CoversAll item.trees) c⌝⦄ := by
  induction fuel generalizing c₀ with
  | zero =>
    mvcgen [moduleRule.itemLoop]
    all_goals grind -ring -linarith
  | succ fuel ih =>
    mvcgen [moduleRule.itemLoop, ih]
    all_goals grind -ring -linarith

@[spec] theorem moduleRule_spec (attributes : List Attribute) (c₀ : Cursor) :
    ⦃fun c => ⌜c = c₀⌝⦄ moduleRule grammar attributes
      ⦃⇓? v c => ⌜Reads c₀ ((∀ attr ∈ attributes, Covers attr.tree) → CoversAll v.trees) c⌝⦄ := by
  have hinside := inside_spec .brace fun v : List Attribute × List Item =>
    (∀ attr ∈ v.1, Covers attr.tree) ∧ ∀ item ∈ v.2, CoversAll item.trees
  mvcgen [moduleRule, hinside]
  all_goals grind -ring -linarith

@[grind ←] theorem simpleItem_covered {attributes : List Attribute} {head : List Tree}
    (hattributes : ∀ attr ∈ attributes, Covers attr.tree) (hhead : CoversAll head) :
    CoversAll (simpleItem attributes head).trees := by
  rw [simpleItem, Item.trees_other]
  exact OtherItem.coversAll_trees hattributes hhead nofun

@[spec] theorem foreignBlock_spec (attributes : List Attribute) (c₀ : Cursor) :
    ⦃fun c => ⌜c = c₀⌝⦄ foreignBlock grammar attributes
      ⦃⇓? v c => ⌜Reads c₀ ((∀ attr ∈ attributes, Covers attr.tree) → CoversAll v.trees) c⌝⦄ := by
  mvcgen [foreignBlock]
  all_goals grind -ring -linarith

@[spec] theorem verbatimItem_spec (start : List TokenTree) (c₀ : Cursor) :
    ⦃fun c => ⌜c = c₀⌝⦄ verbatimItem start ⦃⇓? v c => ⌜c = c₀ ∧ CoversAll v.trees⌝⦄ := by
  mvcgen [verbatimItem]
  all_goals grind -ring -linarith

theorem itemRule_spec (c₀ : Cursor) :
    ⦃fun c => ⌜c = c₀⌝⦄ itemRule grammar ⦃⇓? v c => ⌜Reads c₀ (CoversAll v.trees) c⌝⦄ := by
  mvcgen [itemRule]
  all_goals grind -ring -linarith

end Grammar

end Counterpart
