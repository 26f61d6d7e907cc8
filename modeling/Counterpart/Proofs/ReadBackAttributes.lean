import Counterpart.Proofs.HostSurvival
import Counterpart.Proofs.ReadBackParsers

/-!
# Attributes that are read back

An attribute that was read is read back from its tokens: its path and its arguments as they are, and
a value as what the grammar finds in the tokens of the value.
-/

namespace Counterpart

/-! ## Attributes -/

/-- A word that may stand in a path of plain words. -/
def Ident.IsSegment (ident : Ident) : Prop := Grammar.moduleSegment [.word ident none] = true

theorem Ident.isSegment_of_isName {ident : Ident} (h : ident.isName = true) : ident.IsSegment := by
  rw [IsSegment, Grammar.moduleSegment]
  simpa [Lookahead.name, TokenTree.ident?] using .inl h

/-- No segment of a path is the word for what is unchecked. -/
theorem Ident.IsSegment.not_reserved {ident : Ident} (h : ident.IsSegment) :
    ident.isWord "unsafe" = false := by
  rw [Bool.eq_false_iff]
  intro hword
  rw [isWord_iff] at hword
  subst hword
  cases h

/-- Every segment is written down. -/
theorem MetaPath.length_le_laterParts (segments : List (Located Ident)) :
    segments.length ≤ (Tree.tokensAll (laterParts segments)).length := by
  induction segments with
  | nil => simp
  | cons segment rest ih =>
    simp [laterParts, Tree.tokens, Tree.name]
    omega

/-- A path of plain words as it is read. -/
structure MetaPath.IsPlain (path : MetaPath) : Prop where
  written : path.IsWritten
  segments : ∀ segment ∈ path.segments, segment.value.IsSegment

theorem MetaPath.IsPlain.not_reserved {path : MetaPath} (h : path.IsPlain) {rest : List TokenTree} :
    Lookahead.keyword "unsafe" (path.tree.tokens ++ rest) = false := by
  obtain ⟨root, segments⟩ := path
  obtain ⟨⟨hroot, hsome⟩, hsegments⟩ := h
  cases segments with
  | nil => exact absurd rfl hsome
  | cons first later =>
    rcases hroot with rfl | ⟨left, right, rfl⟩
    · exact (hsegments first List.mem_cons_self).not_reserved
    · rfl

/-- The content of an attribute as it is read. -/
structure MetaItem.IsRead (item : MetaItem) : Prop where
  path : item.path.IsPlain ∨ ∃ region, item.path = ⟨[], [⟨.plain "unsafe", region⟩]⟩
  equals : ∀ equals value, item.arguments = .value equals value →
    ∃ region, equals = [Parser.single '=' region]

/-- An attribute in front of what it belongs to as it is read. -/
structure Attribute.IsRead (attr : Attribute) : Prop where
  outer : attr.isInner = false
  lead : ∃ region, attr.lead = [Parser.single '#' region]
  content : attr.content.IsRead

/-- All attributes in front of something are written in front of it. -/
theorem Attribute.outer_eq_map {attributes : List Attribute}
    (h : ∀ attr ∈ attributes, attr.IsRead) :
    Attribute.outer attributes = attributes.map Attribute.tree := by
  rw [Attribute.outer, List.filter_eq_self.mpr fun attr hattr => by simp [(h attr hattr).outer]]

namespace Grammar

open Counterpart.Parser

section Read

variable {grammar : Grammar} {cursor after : Cursor}

theorem isSegment_of_plainSegments {fuel : Nat} {segments : List (Located Ident)} {open? : Bool}
    (h : plainSegments fuel cursor = .ok ((segments, open?), after)) :
    ∀ segment ∈ segments, segment.value.IsSegment := by
  induction fuel generalizing cursor segments open? with
  | zero =>
    cases h
    nofun
  | succ fuel ih =>
    obtain ⟨found, same, hfound, h⟩ := exists_of_bind h
    cases hfound
    cases hsegment : moduleSegment cursor.rest with
    | false =>
      rw [hsegment] at h
      cases h
      nofun
    | true =>
      rw [hsegment] at h
      obtain ⟨segment, behind, hword, h⟩ := exists_of_bind h
      have hfirst : segment.value.IsSegment := by
        unfold anyWord at hword
        split at hword
        · next ident region rest hrest =>
          cases hword
          rw [hrest] at hsegment
          exact hsegment
        · cases hword
      obtain ⟨goesOn, same, -, h⟩ := exists_of_bind h
      cases goesOn with
      | false =>
        cases h
        exact List.forall_mem_singleton.mpr hfirst
      | true =>
        obtain ⟨colons, next, -, h⟩ := exists_of_bind h
        obtain ⟨⟨rest, open?⟩, last, hrest, h⟩ := exists_of_bind h
        cases h
        exact List.forall_mem_cons.mpr ⟨hfirst, ih hrest⟩

theorem isPlain_of_modulePath {path : MetaPath} (h : modulePath cursor = .ok (path, after)) :
    path.IsPlain := by
  refine ⟨MetaPath.isWritten_of_modulePath h, ?_⟩
  obtain ⟨root, behind, -, h⟩ := exists_of_bind h
  obtain ⟨tokens, same, -, h⟩ := exists_of_bind h
  obtain ⟨⟨segments, open?⟩, next, hsegments, h⟩ := exists_of_bind h
  dsimp only at h
  split at h
  · obtain ⟨segment, last, hname, h⟩ := exists_of_bind h
    cases h
    exact List.forall_mem_singleton.mpr (Ident.isSegment_of_isName (isName_of_name hname))
  · split at h
    · cases h
    · cases h
      exact isSegment_of_plainSegments hsegments

theorem equals_of_metaArguments {arguments : MetaArguments} {equals : List Tree} {value : Tree}
    (h : metaArguments grammar cursor = .ok (arguments, after))
    (hvalue : arguments = .value equals value) : ∃ region, equals = [single '=' region] := by
  subst hvalue
  obtain ⟨tokens, same, -, h⟩ := exists_of_bind h
  split at h
  · obtain ⟨tree, behind, -, h⟩ := exists_of_bind h
    cases h
  · split at h
    · obtain ⟨mark, behind, hmark, h⟩ := exists_of_bind h
      obtain ⟨tree, next, -, h⟩ := exists_of_bind h
      cases h
      exact exists_of_operator '=' rfl hmark
    · cases h

theorem isRead_of_metaItem {item : MetaItem} (h : metaItem grammar cursor = .ok (item, after)) :
    item.IsRead := by
  obtain ⟨unchecked, same, hunchecked, h⟩ := exists_of_bind h
  cases hunchecked
  dsimp only at h
  split at h
  · next hahead =>
    obtain ⟨word, behind, hword, h⟩ := exists_of_bind h
    obtain ⟨path, same, hpath, h⟩ := exists_of_bind h
    cases hpath
    obtain ⟨arguments, next, harguments, h⟩ := exists_of_bind h
    cases h
    refine ⟨.inr ⟨word.region, ?_⟩, fun equals value => equals_of_metaArguments harguments⟩
    rw [← eq_of_anyWord hahead hword]
  · obtain ⟨path, behind, hpath, h⟩ := exists_of_bind h
    obtain ⟨arguments, next, harguments, h⟩ := exists_of_bind h
    cases h
    exact ⟨.inl (isPlain_of_modulePath hpath),
      fun equals value => equals_of_metaArguments harguments⟩

theorem isRead_of_outerAttribute {attr : Attribute}
    (h : outerAttribute grammar cursor = .ok (attr, after)) : attr.IsRead := by
  obtain ⟨lead, behind, hlead, h⟩ := exists_of_bind h
  obtain ⟨⟨content, opening, closing⟩, next, hinside, h⟩ := exists_of_bind h
  cases h
  have hcontent : content.IsRead := by
    unfold inside at hinside
    split at hinside
    · split at hinside
      · split at hinside
        · next hitem =>
          cases hinside
          exact isRead_of_metaItem hitem
        · cases hinside
      · cases hinside
    · cases hinside
  exact ⟨rfl, exists_of_operator '#' rfl hlead, hcontent⟩

theorem isRead_of_attributeLoop {fuel : Nat} {test : List TokenTree → Bool}
    {attributes : List Attribute}
    (h : attributeLoop fuel test (outerAttribute grammar) cursor = .ok (attributes, after)) :
    ∀ attr ∈ attributes, attr.IsRead := by
  induction fuel generalizing cursor attributes with
  | zero =>
    cases h
    nofun
  | succ fuel ih =>
    obtain ⟨found, same, -, h⟩ := exists_of_bind h
    cases found with
    | false =>
      cases h
      nofun
    | true =>
      obtain ⟨first, behind, hfirst, h⟩ := exists_of_bind h
      obtain ⟨rest, next, hrest, h⟩ := exists_of_bind h
      cases h
      exact List.forall_mem_cons.mpr ⟨isRead_of_outerAttribute hfirst, ih hrest⟩

theorem isRead_of_outerAttributes {attributes : List Attribute}
    (h : outerAttributes grammar cursor = .ok (attributes, after)) :
    ∀ attr ∈ attributes, attr.IsRead := by
  obtain ⟨tokens, same, -, h⟩ := exists_of_bind h
  exact isRead_of_attributeLoop h

end Read

/-! ## Attributes that are read back -/

/-- What stands behind the path of an attribute is read back in brackets that end at the given
place: a value as what the grammar finds in its tokens, all else as it is. -/
inductive ArgumentsReadBack (grammar : Grammar) (closing : Option Region) :
    MetaArguments → MetaArguments → Prop
  | word : ArgumentsReadBack grammar closing .word .word
  | list {delimiter : Delimiter} {opening ending : Option Region} {content : List TokenTree} :
    ArgumentsReadBack grammar closing (.list delimiter opening ending content)
      (.list delimiter opening ending content)
  | value {equals : List Tree} {value answer : Tree}
      (hvalue : Takes (metaValue grammar) closing value.tokens answer []) :
    ArgumentsReadBack grammar closing (.value equals value) (.value equals answer)

/-- An attribute is read back up to its value. -/
def AttributeReadsBack (grammar : Grammar) (before after : Attribute) : Prop :=
  ∃ arguments, ArgumentsReadBack grammar before.closing before.content.arguments arguments ∧
    after = { before with content := ⟨before.content.path, arguments⟩ }

variable {grammar : Grammar} {closing : Option Region} {rest : List TokenTree}

theorem takes_plainSegments {fuel : Nat} {first : Located Ident} {later : List (Located Ident)}
    (hsegments : ∀ segment ∈ first :: later, segment.value.IsSegment)
    (hfuel : later.length < fuel) (hcolons : Lookahead.operator "::" rest = false) :
    Takes (plainSegments fuel) closing
      (.word first.value first.region :: Tree.tokensAll (MetaPath.laterParts later))
      (first :: later, false) rest := by
  induction later generalizing first fuel with
  | nil =>
    obtain ⟨fuel, rfl⟩ : ∃ smaller, fuel = smaller + 1 := Nat.exists_eq_add_one.mpr (by omega)
    have hfirst : moduleSegment (.word first.value first.region :: rest) = true :=
      hsegments first List.mem_cons_self
    rw [MetaPath.laterParts, Tree.tokensAll_nil]
    exact Takes.whether true hfirst ((takes_anyWord first).finish
      (Takes.whether false hcolons (takes_pure _)))
  | cons second later ih =>
    obtain ⟨fuel, rfl⟩ : ∃ smaller, fuel = smaller + 1 := Nat.exists_eq_add_one.mpr (by omega)
    have hlater := ih (List.forall_mem_cons.mp hsegments).2 (by simpa using hfuel)
    have hfirst : ∀ more, moduleSegment (.word first.value first.region :: more) = true :=
      fun more => hsegments first List.mem_cons_self
    have hmark : Takes (operator "::") closing (operatorTokens [':', ':']) (Tree.operator "::")
        (.word second.value second.region :: Tree.tokensAll (MetaPath.laterParts later) ++ rest) :=
      rfl
    exact Takes.whether true (hfirst _) ((takes_anyWord first).bind
      (Takes.whether true rfl (hmark.bind (hlater.finish (takes_pure _)))))

/-- A path of plain words is read back as itself. -/
theorem takes_modulePath {path : MetaPath} (h : path.IsPlain)
    (hcolons : Lookahead.operator "::" rest = false) :
    Takes modulePath closing path.tree.tokens path rest := by
  obtain ⟨root, segments⟩ := path
  obtain ⟨⟨hroot, hsome⟩, hsegments⟩ := h
  cases segments with
  | nil => exact absurd rfl hsome
  | cons first later =>
    have htokens : (MetaPath.tree ⟨root, first :: later⟩).tokens =
        Tree.tokensAll root
          ++ .word first.value first.region :: Tree.tokensAll (MetaPath.laterParts later) := by
      simp [MetaPath.tree, Tree.tokens, Tree.name]
    have hlength := MetaPath.length_le_laterParts later
    have hroot' : Takes (operator? "::") closing (Tree.tokensAll root) root
        (.word first.value first.region :: Tree.tokensAll (MetaPath.laterParts later) ++ rest) := by
      rcases hroot with rfl | ⟨left, right, rfl⟩
      · exact takes_operator?_none rfl
      · rfl
    rw [htokens]
    refine hroot'.bind (takes_ahead.look ?_)
    refine (takes_plainSegments hsegments ?_ hcolons).finish (takes_pure _)
    simp only [List.length_append, List.length_cons]
    omega

theorem takes_metaItem {before : MetaItem} {arguments : MetaArguments} (hread : before.IsRead)
    (harguments : ArgumentsReadBack grammar closing before.arguments arguments) :
    Takes (metaItem grammar) closing (Tree.tokensAll before.trees) ⟨before.path, arguments⟩ [] := by
  obtain ⟨path, before⟩ := before
  obtain ⟨behind, hbehind, htrees, hcolons⟩ : ∃ behind,
      Takes (metaArguments grammar) closing behind arguments [] ∧
      Tree.tokensAll (MetaItem.trees ⟨path, before⟩) = path.tree.tokens ++ behind ∧
      Lookahead.operator "::" (behind ++ []) = false := by
    cases harguments with
    | word => exact ⟨[], rfl, by simp [MetaItem.trees], rfl⟩
    | @list delimiter opening ending content =>
      exact ⟨[.group delimiter opening ending content], rfl, by simp [MetaItem.trees, Tree.tokens],
        rfl⟩
    | @value equals value answer hvalue =>
      obtain ⟨region, rfl⟩ := hread.equals equals value rfl
      refine ⟨.punct '=' false region :: value.tokens, ?_,
        by simp [MetaItem.trees, single, Tree.tokens], rfl⟩
      have hmark : Takes (operator "=") closing [.punct '=' false region] [single '=' region]
          (value.tokens ++ []) := rfl
      exact takes_ahead.look (hmark.bind (hvalue.finish (takes_pure _)))
  have hitem : Takes (metaArguments grammar >>= fun arguments => pure (MetaItem.mk path arguments))
      closing behind ⟨path, arguments⟩ [] := hbehind.finish (takes_pure _)
  rw [htrees]
  rcases hread.path with hplain | ⟨region, rfl⟩
  · have hchecked : Lookahead.keyword "unsafe" (path.tree.tokens ++ behind ++ []) = false := by
      rw [List.append_assoc]
      exact hplain.not_reserved
    exact Takes.whether false hchecked ((takes_modulePath hplain hcolons).bind hitem)
  · have hword : Takes anyWord closing [.word (.plain "unsafe") region] ⟨.plain "unsafe", region⟩
        (behind ++ []) := rfl
    exact Takes.whether true rfl (hword.bind hitem)

/-- An attribute is read back as itself up to its value. -/
theorem takes_outerAttribute {before after : Attribute} (hread : before.IsRead)
    (h : AttributeReadsBack grammar before after) :
    Takes (outerAttribute grammar) closing before.tokens after rest := by
  obtain ⟨isInner, lead, opening, ending, content⟩ := before
  obtain ⟨arguments, harguments, rfl⟩ := h
  obtain ⟨houter, ⟨region, hlead⟩, hcontent⟩ := hread
  dsimp only at houter hlead hcontent harguments
  subst houter hlead
  have htokens : (Attribute.mk false [single '#' region] opening ending content).tokens =
      [.punct '#' false region]
        ++ [.group .bracket opening ending (Tree.tokensAll content.trees)] := by
    simp [Attribute.tokens, Attribute.tree, single, Tree.tokens]
  rw [htokens]
  have hmark : Takes (operator "#") closing [.punct '#' false region] [single '#' region]
      ([.group .bracket opening ending (Tree.tokensAll content.trees)] ++ rest) := rfl
  exact hmark.bind ((takes_inside (takes_metaItem hcontent harguments)).finish (takes_pure _))

theorem takes_attributeLoop {fuel : Nat} {before after : List Attribute}
    (hread : ∀ attr ∈ before, attr.IsRead)
    (h : List.Forall₂ (AttributeReadsBack grammar) before after)
    (hend : Lookahead.operator "#" rest = false) (hfuel : before.length < fuel) :
    Takes (attributeLoop fuel (Lookahead.operator "#") (outerAttribute grammar)) closing
      (Tree.tokensAll (before.map Attribute.tree)) after rest := by
  induction h generalizing fuel with
  | nil =>
    obtain ⟨fuel, rfl⟩ : ∃ smaller, fuel = smaller + 1 := Nat.exists_eq_add_one.mpr (by omega)
    exact Takes.whether false hend (takes_pure [])
  | @cons first answer before after hfirst hrest ih =>
    obtain ⟨fuel, rfl⟩ : ∃ smaller, fuel = smaller + 1 := Nat.exists_eq_add_one.mpr (by omega)
    obtain ⟨hhead, htail⟩ := List.forall_mem_cons.mp hread
    have hsign : Lookahead.operator "#"
        (first.tree.tokens ++ Tree.tokensAll (before.map Attribute.tree) ++ rest) = true := by
      obtain ⟨region, hlead⟩ := hhead.lead
      rw [Attribute.tree, hlead]
      rfl
    rw [List.map_cons, Tree.tokensAll_cons]
    refine Takes.whether true hsign ((takes_outerAttribute hhead hfirst).bind ?_)
    exact (ih htail (by simpa using hfuel)).finish (takes_pure _)

/-- Attributes are read back one by one. -/
theorem takes_outerAttributes {before after : List Attribute} (hread : ∀ attr ∈ before, attr.IsRead)
    (h : List.Forall₂ (AttributeReadsBack grammar) before after)
    (hend : Lookahead.operator "#" rest = false) :
    Takes (outerAttributes grammar) closing (Tree.tokensAll (Attribute.outer before)) after
      rest := by
  have hlength : before.length ≤ (Tree.tokensAll (before.map Attribute.tree)).length := by
    clear h
    induction before with
    | nil => simp
    | cons attr attributes ih =>
      have hlater := ih (List.forall_mem_cons.mp hread).2
      simp [Attribute.tree, Tree.tokens]
      omega
  rw [Attribute.outer_eq_map hread]
  refine takes_ahead.look (takes_attributeLoop hread h hend ?_)
  rw [List.length_append]
  omega

end Grammar

end Counterpart
