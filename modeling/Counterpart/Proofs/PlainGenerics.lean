import Counterpart.Proofs.ReadBackPlain

/-!
# Generic parameters with plain parts

Parameters without attributes whose parts are plain come back as they are from all code that lists
them: from the header of an implementation, from a declaration, and from the code that a declaration
is read from.
-/

namespace Counterpart

open Counterpart.Parser

/-! ## Parameters -/

/-- The default of a parameter of the given kind is plain. -/
def GenericKind.IsPlainDefault : GenericKind → Tree → Prop
  | .const => Grammar.IsConstant
  | .lifetime | .type => Grammar.IsPlain .type

/-- A parameter without attributes whose bounds, type and default are plain. -/
structure GenericParameter.IsPlain (parameter : GenericParameter) : Prop where
  attributes : parameter.attributes = []
  bounds : parameter.kind = .type → IsSum (Grammar.IsPlain .bound) parameter.bounds
  type : parameter.kind = .const → ∀ type ∈ parameter.bounds, Grammar.IsPlain .type type
  fallback : parameter.fallback = [] ∨ ∃ region value,
    parameter.fallback = [single '=' region, value] ∧ parameter.kind.IsPlainDefault value

/-- Trees that have the same tokens, and are the same if they are single tokens. -/
def Tree.SpelledAlike (before after : Tree) : Prop :=
  before.tokens = after.tokens ∧ ∀ token, after = .leaf token → before = after

theorem Tree.spelledAlike_refl (tree : Tree) : tree.SpelledAlike tree := ⟨rfl, fun _ _ => rfl⟩

/-- Parameters without attributes whose parts are spelled alike. -/
structure GenericParameter.SpelledAlike (before after : GenericParameter) : Prop where
  kind : after.kind = before.kind
  keyword : after.keyword = before.keyword
  name : after.name = before.name
  colon : after.colon = before.colon
  attributes : before.attributes = [] ∧ after.attributes = []
  lifetimes : before.kind = .lifetime → after.bounds = before.bounds
  bounds : List.Forall₂ Tree.SpelledAlike before.bounds after.bounds
  fallback : List.Forall₂ Tree.SpelledAlike before.fallback after.fallback

namespace Grammar

variable {rest : List TokenTree} {fuel : Nat}

theorem tokensAll_of_spelledAlike {before after : List Tree}
    (h : List.Forall₂ Tree.SpelledAlike before after) :
    Tree.tokensAll before = Tree.tokensAll after := by
  induction h with
  | nil => rfl
  | cons hfirst hothers ih => rw [Tree.tokensAll_cons, Tree.tokensAll_cons, hfirst.1, ih]

/-- What stands behind a bound: a further one, a default, or what stands behind the parameter. -/
theorem endsBound_of_mark {character : Char} {joint : Bool} {region : Option Region}
    (h : character = ',' ∨ character = '>' ∨ character = '=' ∨ character = '+') :
    EndsBound (.punct character joint region :: rest) := by
  rcases h with rfl | rfl | rfl | rfl <;> exact ⟨lacks_punct rfl, rfl⟩

theorem endsBound_of_boundEnd (h : typeBoundEnd rest = true) : EndsBound rest := by
  match rest with
  | .punct character joint region :: others =>
    have hcharacter : (character = ',' ∨ character = '>') ∨ character = '=' := by
      simpa [typeBoundEnd, parameterBoundEnd, Lookahead.operator, Lookahead.operatorChars] using h
    exact endsBound_of_mark (by tauto)
  | [] | .word _ _ :: _ | .literal _ _ :: _ | .group _ _ _ _ :: _ => cases h

/-- A sum of plain bounds comes back. -/
theorem sumReadsBack_plain {before after : List Tree} (hplain : IsSum (IsPlain .bound) after)
    (halike : List.Forall₂ Tree.SpelledAlike before after)
    (hsize : TokenTree.sizeAll (Tree.tokensAll after) ≤ fuel) (hrest : typeBoundEnd rest = true) :
    SumReadsBack ((within fuel).tree (.bound false true)) typeBoundEnd rest before after := by
  have hend := endsBound_of_boundEnd hrest
  induction hplain generalizing before with
  | nil =>
    cases halike
    exact .nil
  | @last first hfirst =>
    obtain ⟨tree, others, htree, hnil, rfl⟩ := List.forall₂_cons_right_iff.mp halike
    cases hnil
    have hbound : BoundComesBack fuel first :=
      hfirst.isReadBack fuel (by simpa [PlainSort.slack] using hsize)
    refine .last ?_ ?_
    · rw [htree.1]
      exact hbound.opens (hend.marks "#" (by simp))
    · rw [htree.1]
      exact hbound.takes hend
  | @more first pieces region hfirst hpieces ih =>
    obtain ⟨tree, behind, htree, hbehind, rfl⟩ := List.forall₂_cons_right_iff.mp halike
    obtain ⟨sign, others, hsign, hothers, rfl⟩ := List.forall₂_cons_right_iff.mp hbehind
    obtain rfl := hsign.2 _ rfl
    simp only [Tree.tokensAll_cons, sizeAll_append] at hsize
    have hbound : BoundComesBack fuel first :=
      hfirst.isReadBack fuel (by rw [PlainSort.slack]; omega)
    have hplus : EndsBound (Tree.tokensAll (single '+' region :: others) ++ rest) :=
      endsBound_of_mark (by simp)
    refine .more ?_ ?_ (ih hothers (by omega))
    · rw [htree.1]
      exact hbound.opens (hplus.marks "#" (by simp))
    · rw [htree.1]
      exact hbound.takes hplus

theorem fallbackReadsBack_plain {kind : GenericKind} {before after : List Tree}
    (hplain : after = [] ∨ ∃ region value, after = [single '=' region, value] ∧
      kind.IsPlainDefault value)
    (halike : List.Forall₂ Tree.SpelledAlike before after)
    (hsize : TokenTree.sizeAll (Tree.tokensAll after) ≤ fuel)
    (hrest : parameterBoundEnd rest = true) :
    FallbackReadsBack (fallbackValue (within fuel) kind) rest before after := by
  rcases hplain with rfl | ⟨region, value, rfl, hvalue⟩
  · cases halike
    exact .none
  · obtain ⟨sign, others, hsign, hothers, rfl⟩ := List.forall₂_cons_right_iff.mp halike
    obtain ⟨tree, others, htree, hnil, rfl⟩ := List.forall₂_cons_right_iff.mp hothers
    cases hnil
    obtain rfl := hsign.2 _ rfl
    simp only [Tree.tokensAll_cons, Tree.tokensAll_nil, sizeAll_append] at hsize
    refine .some ?_
    rw [htree.1]
    cases kind with
    | const => exact takes_constantArgument hvalue
    | lifetime | type =>
      have htype : TypeComesBack fuel value :=
        hvalue.isReadBack fuel (by rw [PlainSort.slack]; omega)
      exact htype.takes (lacks_of_boundEnd hrest)

/-- A plain parameter comes back in front of a comma or of the end of its list. -/
theorem parameterReadsBack_plain {before after : GenericParameter} (hread : after.IsRead)
    (hplain : after.IsPlain) (halike : before.SpelledAlike after)
    (hsize : TokenTree.sizeAll (Tree.tokensAll before.spelled) ≤ fuel)
    (hrest : parameterBoundEnd rest = true) :
    ParameterReadsBack (within fuel) rest before after := by
  have hbounds := tokensAll_of_spelledAlike halike.bounds
  have hfallback := tokensAll_of_spelledAlike halike.fallback
  simp only [GenericParameter.spelled, Tree.tokensAll_append, Tree.tokensAll_cons,
    sizeAll_append, hbounds, hfallback] at hsize
  obtain ⟨hbefore, hafter⟩ := halike.attributes
  have hdefault : FallbackReadsBack (fallbackValue (within fuel) after.kind) rest before.fallback
      after.fallback :=
    fallbackReadsBack_plain hplain.fallback halike.fallback (by omega) hrest
  obtain ⟨hend, -, hplus⟩ := typeBoundEnd_fallback hdefault hrest
  have hlacks : Lacks (typeMarks true) (Tree.tokensAll before.fallback ++ rest) := by
    intro text htext
    rcases List.mem_append.mp htext with hmark | hsum
    · exact (endsBound_of_boundEnd hend).marks text (List.mem_append_left ["->"] hmark)
    · rw [List.mem_singleton.mp hsum, hplus]
  refine ⟨halike.kind, halike.keyword, halike.name, halike.colon, ?_, ?_, halike.kind ▸ hdefault⟩
  · rw [hbefore, hafter]
    exact .nil
  · cases hread with
    | lifetime =>
      rw [← halike.lifetimes halike.kind.symm, ← halike.kind]
      exact .lifetime
    | type | placeholder =>
      rw [← halike.kind]
      exact .type (sumReadsBack_plain (hplain.bounds rfl) halike.bounds (by omega) hend)
    | @const attributes ident place region type fallback hattributes hname =>
      obtain ⟨tree, others, htree, hnil, hone⟩ := List.forall₂_cons_right_iff.mp halike.bounds
      cases hnil
      simp only [Tree.tokensAll_cons, Tree.tokensAll_nil, List.append_nil] at hsize
      have htype : TypeComesBack fuel type := (hplain.type rfl type List.mem_cons_self).isReadBack
        fuel (by rw [PlainSort.slack]; omega)
      rw [hone, ← halike.kind]
      refine .const ?_
      rw [htree.1]
      exact htype.takes hlacks

open Generics

/-- Behind a parameter of a list stands a comma or the end of the list. -/
theorem boundEnd_of_list (trailing : Bool) (others : List GenericParameter) :
    parameterBoundEnd (commaBehind trailing others
      ++ (listTokens trailing others ++ (Template.mark ">" ++ rest))) = true := by
  rw [commaBehind]
  split
  · rfl
  · next hnone =>
    obtain ⟨-, rfl⟩ : trailing = false ∧ others = [] := by simpa using hnone
    rfl

/-- Plain parameters come back from a list of parameters. -/
theorem parametersReadBack_plain {trailing : Bool} {before after : List GenericParameter}
    (hread : ∀ parameter ∈ after, parameter.IsRead)
    (hplain : ∀ parameter ∈ after, parameter.IsPlain)
    (halike : List.Forall₂ GenericParameter.SpelledAlike before after)
    (hsize : TokenTree.sizeAll (listTokens trailing before) ≤ fuel) :
    ParametersReadBack (within fuel) trailing rest before after := by
  induction halike with
  | nil => exact .nil
  | @cons first answer others answers hfirst hothers ih =>
    obtain ⟨hfirstRead, hothersRead⟩ := List.forall_mem_cons.mp hread
    obtain ⟨hfirstPlain, hothersPlain⟩ := List.forall_mem_cons.mp hplain
    rw [listTokens, sizeAll_append, sizeAll_append] at hsize
    exact .cons (parameterReadsBack_plain hfirstRead hfirstPlain hfirst (by omega)
      (boundEnd_of_list trailing others)) (ih hothersRead hothersPlain (by omega))

end Grammar

/-! ## Lists -/

namespace GenericParameter

variable {before after : GenericParameter}

theorem IsPlain.settled (h : after.IsPlain) : after.settled.IsPlain := by
  rw [GenericParameter.settled]
  split
  · exact ⟨h.attributes, h.bounds, h.type, h.fallback⟩
  · exact h

theorem IsPlain.header (h : after.IsPlain) : after.header.IsPlain := by
  rw [GenericParameter.header]
  split
  · exact ⟨h.settled.attributes, h.settled.bounds, h.settled.type, .inl rfl⟩
  · exact ⟨rfl, h.bounds, h.type, .inl rfl⟩
  · exact ⟨rfl, h.bounds, h.type, .inl rfl⟩

theorem SpelledAlike.settled (h : before.SpelledAlike after) :
    before.settled.SpelledAlike after.settled := by
  have hempty : before.bounds.isEmpty = after.bounds.isEmpty := by
    rw [Bool.eq_iff_iff, List.isEmpty_iff_length_eq_zero, List.isEmpty_iff_length_eq_zero,
      h.bounds.length_eq]
  rw [GenericParameter.settled, GenericParameter.settled, hempty]
  split
  · exact ⟨h.kind, h.keyword, h.name, rfl, h.attributes, h.lifetimes, h.bounds, h.fallback⟩
  · exact h

theorem SpelledAlike.header (h : before.SpelledAlike after) :
    before.header.SpelledAlike after.header := by
  have hsettled := h.settled
  rw [GenericParameter.header, GenericParameter.header, h.kind]
  split
  · exact ⟨hsettled.kind, hsettled.keyword, hsettled.name, hsettled.colon, hsettled.attributes,
      hsettled.lifetimes, hsettled.bounds, .nil⟩
  · exact ⟨rfl, h.keyword, h.name, h.colon, ⟨rfl, rfl⟩, h.lifetimes, h.bounds, .nil⟩
  · exact ⟨rfl, h.keyword, h.name, h.colon, ⟨rfl, rfl⟩, h.lifetimes, h.bounds, .nil⟩

theorem IsPlain.spelledAlike (h : after.IsPlain) : after.SpelledAlike after where
  kind := rfl
  keyword := rfl
  name := rfl
  colon := rfl
  attributes := ⟨h.attributes, h.attributes⟩
  lifetimes := fun _ => rfl
  bounds := List.forall₂_same.mpr fun bound _ => bound.spelledAlike_refl
  fallback := List.forall₂_same.mpr fun tree _ => tree.spelledAlike_refl

end GenericParameter

namespace Generics

open Grammar

/-- Parameters that are written like other parameters, whose parts are plain. -/
structure WrittenLike (before after : Generics) : Prop where
  written : ∀ parameter ∈ before.parameters, parameter.IsRead
  read : ∀ parameter ∈ after.parameters, parameter.IsRead
  plain : ∀ parameter ∈ after.parameters, parameter.IsPlain
  alike : List.Forall₂ GenericParameter.SpelledAlike before.parameters after.parameters

variable {before after : Generics}

theorem sizeAll_le_fuelFor {code : List TokenTree} {trailing : Bool}
    {parameters : List GenericParameter}
    (hcode : code = Template.angles (listTokens trailing parameters)) :
    TokenTree.sizeAll (listTokens trailing parameters) ≤ fuelFor code := by
  rw [hcode, fuelFor, Template.angles, sizeAll_append, sizeAll_append]
  omega

theorem spelledAlike_settled {parameters answers : List GenericParameter}
    (h : List.Forall₂ GenericParameter.SpelledAlike parameters answers) :
    List.Forall₂ GenericParameter.SpelledAlike (parameters.map GenericParameter.settled)
      (answers.map GenericParameter.settled) := by
  rw [List.forall₂_map_left_iff, List.forall₂_map_right_iff]
  exact h.imp fun parameter answer halike => halike.settled

theorem isPlain_settled {parameters : List GenericParameter}
    (h : ∀ parameter ∈ parameters, parameter.IsPlain) :
    ∀ parameter ∈ parameters.map GenericParameter.settled, parameter.IsPlain :=
  List.forall_mem_map.mpr fun parameter hparameter => (h parameter hparameter).settled

/-- What is left of plain parameters comes back from a header. -/
theorem WrittenLike.header (h : before.WrittenLike after) :
    ParametersReadBack (forTokens before.headerCode) true [] before.header.parameters
      after.header.parameters := by
  refine parametersReadBack_plain (isRead_header h.read) ?_ ?_
    (sizeAll_le_fuelFor (headerCode_eq h.written))
  · exact List.forall_mem_map.mpr fun parameter hparameter =>
      (h.plain parameter hparameter).header
  · rw [Generics.header, Generics.header, List.forall₂_map_left_iff, List.forall₂_map_right_iff]
    exact h.alike.imp fun parameter answer halike => halike.header

/-- Plain parameters come back from the code that they are read from. -/
theorem WrittenLike.source (h : before.WrittenLike after) :
    ParametersReadBack (forTokens before.sourceCode) before.trailing []
      (before.parameters.map GenericParameter.settled)
      (after.parameters.map GenericParameter.settled) :=
  parametersReadBack_plain (isRead_settled h.read) (isPlain_settled h.plain)
    (spelledAlike_settled h.alike) (sizeAll_le_fuelFor before.sourceCode_eq)

/-- Plain parameters come back from a declaration. -/
theorem WrittenLike.declaration (h : before.WrittenLike after) :
    ParametersReadBack (forTokens before.declaredCode) before.declaredTrailing []
      (before.declaredOrder.map GenericParameter.settled)
      (after.declaredOrder.map GenericParameter.settled) := by
  cases hempty : before.parameters.isEmpty with
  | true =>
    have hbefore : before.parameters = [] := List.isEmpty_iff.mp hempty
    have hafter : after.parameters = [] := List.forall₂_nil_left_iff.mp (hbefore ▸ h.alike)
    rw [declaredOrder, declaredOrder, hbefore, hafter]
    exact .nil
  | false =>
    have horder : List.Forall₂ GenericParameter.SpelledAlike before.declaredOrder
        after.declaredOrder := by
      have hlifetime (parameter answer : GenericParameter)
          (halike : parameter.SpelledAlike answer) :
          isLifetime parameter = true ↔ isLifetime answer = true := by
        rw [isLifetime, isLifetime, halike.kind]
      have hother (parameter answer : GenericParameter) (halike : parameter.SpelledAlike answer) :
          (!isLifetime parameter) = true ↔ (!isLifetime answer) = true := by
        rw [isLifetime, isLifetime, halike.kind]
      exact List.rel_append (List.rel_filter hlifetime h.alike) (List.rel_filter hother h.alike)
    refine parametersReadBack_plain (isRead_declaredOrder h.read) (isPlain_settled ?_)
      (spelledAlike_settled horder) (sizeAll_le_fuelFor (declaredCode_eq hempty))
    intro parameter hparameter
    exact h.plain parameter ((lifetimesFirst_perm after.parameters).mem_iff.mp hparameter)

theorem WrittenLike.settled (h : before.WrittenLike after) :
    before.settled.WrittenLike after.settled where
  written := isRead_settled h.written
  read := isRead_settled h.read
  plain := isPlain_settled h.plain
  alike := spelledAlike_settled h.alike

/-- All code that lists the parameters is read as other parameters. -/
structure ReadsAs (before after : Generics) : Prop where
  header : Grammar.read genericParameters before.headerCode =
    .ok ⟨after.header.parameters, true, []⟩
  declaration : Grammar.read genericParameters before.declaredCode =
    .ok ⟨after.declaredOrder.map GenericParameter.settled,
      before.declaredTrailing && !before.parameters.isEmpty, []⟩
  source : Grammar.read genericParameters before.sourceCode =
    .ok ⟨after.parameters.map GenericParameter.settled,
      before.trailing || before.parameters.isEmpty, []⟩

theorem WrittenLike.readsAs (h : before.WrittenLike after) : before.ReadsAs after where
  header := read_headerCode h.written h.header
  declaration := read_declaredCode h.written h.declaration
  source := read_sourceCode h.written h.source

/-- Parameters with plain parts are written like themselves. -/
theorem writtenLike_of_isPlain (hread : ∀ parameter ∈ after.parameters, parameter.IsRead)
    (hplain : ∀ parameter ∈ after.parameters, parameter.IsPlain) : after.WrittenLike after :=
  ⟨hread, hread, hplain,
    List.forall₂_same.mpr fun parameter hparameter => (hplain parameter hparameter).spelledAlike⟩

end Generics

end Counterpart
