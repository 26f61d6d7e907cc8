import Counterpart.Proofs.ReadBackParts

/-!
# Plain parts that are read back

A plain part comes back from its tokens as it is, wherever it does not go on, with as much depth of
recursion as it has tokens (`IsPlain.isReadBack`). The induction is on its form: each construct
comes back if its parts do, and they have less tokens than the construct.
-/

namespace Counterpart

open Counterpart.Parser

namespace Grammar

variable {closing : Option Region} {rest : List TokenTree} {fuel : Nat}

/-! ## Sizes -/

theorem sizeAll_append (first second : List TokenTree) :
    TokenTree.sizeAll (first ++ second) = TokenTree.sizeAll first + TokenTree.sizeAll second := by
  induction first with
  | nil => simp [TokenTree.sizeAll]
  | cons token first ih => simp [TokenTree.sizeAll, ih, Nat.add_assoc]

theorem sizeAll_le_of_mem {tree : Tree} {trees : List Tree} (h : tree ∈ trees) :
    TokenTree.sizeAll tree.tokens ≤ TokenTree.sizeAll (Tree.tokensAll trees) := by
  induction trees with
  | nil => cases h
  | cons first others ih =>
    rw [Tree.tokensAll_cons, sizeAll_append]
    rcases List.mem_cons.mp h with rfl | hothers
    · omega
    · have hsize := ih hothers
      omega

theorem mem_written {pieces : List (Tree × List Tree)} {entry : Tree × List Tree}
    (h : entry ∈ pieces) : entry.1 ∈ written pieces :=
  List.mem_flatMap.mpr ⟨entry, h, List.mem_cons_self⟩

theorem mem_writtenSegments {later : List (List Tree × Tree)} {entry : List Tree × Tree}
    (h : entry ∈ later) : entry.2 ∈ writtenSegments later :=
  List.mem_flatMap.mpr ⟨entry, h, by simp⟩

theorem tokens_named {path : Tree} : (Tree.node .typePath [path]).tokens = path.tokens := by
  simp [Tree.tokens]

/-- A type is as large as a token at least. -/
theorem IsPlain.size_pos {tree : Tree} (h : IsPlain .type tree) :
    0 < TokenTree.sizeAll tree.tokens := by
  have hopens : OpensType (tree.tokens ++ []) := h.opensType rfl
  cases htokens : tree.tokens with
  | nil =>
    rw [htokens] at hopens
    exact absurd hopens.some nofun
  | cons token others => cases token <;> simp [TokenTree.sizeAll, TokenTree.size] <;> omega

theorem IsPlain.path_size_pos {path : Tree} (h : IsPlain .path path) :
    0 < TokenTree.sizeAll path.tokens := by
  rw [← tokens_named]
  exact (IsPlain.named h).size_pos

/-! ## Constructs that come back -/

/-- How a construct comes back with the given depth of recursion for its parts. -/
def ComesBack (fuel : Nat) : PlainSort → Tree → Prop
  | .segment => SegmentComesBack (within fuel)
  | .path => PathComesBack (within fuel)
  | .type => TypeComesBack fuel
  | .argument => ArgumentComesBack (within fuel)
  | .call => CallComesBack (within fuel)
  | .bound => BoundComesBack fuel

/-- How many tokens more than the depth of recursion a construct may have: a path is read where the
type that it is was read with one more. -/
def PlainSort.slack : PlainSort → Nat
  | .segment | .path => 1
  | .type | .argument | .call | .bound => 0

/-- A construct comes back with any depth of recursion that is enough for its tokens. -/
def IsReadBack (sort : PlainSort) (tree : Tree) : Prop :=
  ∀ fuel, TokenTree.sizeAll tree.tokens ≤ fuel + sort.slack → ComesBack fuel sort tree

section Lists

variable {later : List (List Tree × Tree)} {elements : List (Tree × List Tree)}

theorem segments_comeBack (hcolons : ∀ entry ∈ later, IsColons entry.1)
    (h : ∀ entry ∈ later, IsReadBack .segment entry.2)
    (hsize : TokenTree.sizeAll (Tree.tokensAll (writtenSegments later)) ≤ fuel + 1) :
    ∀ entry ∈ later, IsColons entry.1 ∧ SegmentComesBack (within fuel) entry.2 := by
  intro entry hentry
  have hentrySize := sizeAll_le_of_mem (mem_writtenSegments hentry)
  exact ⟨hcolons entry hentry, h entry hentry fuel (Nat.le_trans hentrySize hsize)⟩

theorem types_comeBack (h : ∀ entry ∈ elements, IsReadBack .type entry.1)
    (hsize : TokenTree.sizeAll (Tree.tokensAll (written elements)) ≤ fuel) :
    ∀ entry ∈ elements, TypeComesBack fuel entry.1 := fun entry hentry =>
  h entry hentry fuel (Nat.le_trans (sizeAll_le_of_mem (mem_written hentry)) hsize)

end Lists

/-! ## Paths -/

section Paths

variable {later : List (List Tree × Tree)}

theorem isReadBack_word {ident : Located Ident} (hword : ident.value.IsSegment) :
    IsReadBack .segment (.node .segment [Tree.name ident]) :=
  fun _ _ => ⟨⟨_, _, _, rfl⟩, fun _ _ hrest => takes_segmentWord hword hrest⟩

/-- The tokens of arguments in angle brackets. -/
theorem tokens_angles {colons : List Tree} {pieces : List (Tree × List Tree)}
    {opening ending : Option Region} :
    (Tree.node .phrase (colons ++ (single '<' opening
      :: (written pieces ++ [single '>' ending])))).tokens =
      Tree.tokensAll colons ++ ([.punct '<' false opening]
        ++ (Tree.tokensAll (written pieces) ++ [.punct '>' false ending])) := by
  simp [Tree.tokens, single]

theorem IsPlain.not_lifetime {tree : Tree} (h : IsPlain .argument tree) :
    tree.isKind .lifetime = false := by
  cases h with
  | type htype => cases htype <;> rfl
  | literal => rfl
  | equality => rfl

theorem isReadBack_applied {ident : Located Ident} {colons : List Tree}
    {lifetimes arguments : List (Tree × List Tree)} {opening ending : Option Region}
    (hname : ident.value.isName = true ∨ ident.value = .plain "Self")
    (hcolons : colons = [] ∨ IsColons colons)
    (hlifetimes : ∀ entry ∈ lifetimes, IsLifetime entry.1)
    (hplain : ∀ entry ∈ arguments, IsPlain .argument entry.1)
    (hcommas : Separated (lifetimes ++ arguments))
    (h : ∀ entry ∈ arguments, IsReadBack .argument entry.1) :
    IsReadBack .segment (.node .segment [Tree.name ident, .node .phrase (colons
      ++ (single '<' opening :: (written (lifetimes ++ arguments) ++ [single '>' ending])))]) := by
  intro fuel hfuel
  have hsize : TokenTree.sizeAll (Tree.tokensAll (written (lifetimes ++ arguments))) ≤ fuel := by
    rw [Tree.tokens, Tree.tokensAll_cons, Tree.tokensAll_cons, Tree.tokensAll_nil,
      List.append_nil, tokens_angles] at hfuel
    simp only [sizeAll_append, Tree.name, Tree.tokens, TokenTree.sizeAll, TokenTree.size,
      PlainSort.slack] at hfuel
    omega
  have hother : ∀ entry ∈ arguments, entry.1.isKind .lifetime = false := fun entry hentry =>
    (hplain entry hentry).not_lifetime
  refine ⟨⟨_, _, _, rfl⟩, fun closing rest _ => ?_⟩
  have hpiece : ∀ entry ∈ lifetimes ++ arguments, ∀ behind, parameterBoundEnd behind = true →
      Takes (pathArgument (within fuel)) closing entry.1.tokens entry.1 behind ∧
        Lookahead.operator ">" (entry.1.tokens ++ behind) = false := by
    intro entry hentry behind hbehind
    rcases List.mem_append.mp hentry with hlifetime | hargument
    · have hlifetime := hlifetimes entry hlifetime
      refine ⟨takes_lifetimeArgument hlifetime hbehind, ?_⟩
      obtain ⟨joint, region, name, place, hlifetime⟩ := hlifetime
      rw [hlifetime]
      rfl
    · have hargument : ArgumentComesBack (within fuel) entry.1 := h entry hargument fuel
        (Nat.le_trans (sizeAll_le_of_mem (mem_written hentry)) hsize)
      exact ⟨hargument.takes hbehind, hargument.opens hbehind⟩
  rw [Tree.tokens, Tree.tokensAll_cons, Tree.tokensAll_cons, Tree.tokensAll_nil, List.append_nil,
    tokens_angles]
  exact takes_segment hname (takes_segmentRest hcolons
    (takes_angleArguments hcolons hlifetimes hother hcommas hpiece))

theorem isReadBack_path {root : List Tree} {first : Tree} (hroot : root = [] ∨ IsColons root)
    (hplain : IsPlain .path (.node .path (root ++ first :: writtenSegments later)))
    (hcolons : ∀ entry ∈ later, IsColons entry.1) (hfirst : IsReadBack .segment first)
    (hlater : ∀ entry ∈ later, IsReadBack .segment entry.2) :
    IsReadBack .path (.node .path (root ++ first :: writtenSegments later)) := by
  intro fuel hfuel
  rw [tokens_path, sizeAll_append, sizeAll_append, PlainSort.slack] at hfuel
  have hhead : SegmentComesBack (within fuel) first :=
    hfirst fuel (by rw [PlainSort.slack]; omega)
  have htail := segments_comeBack hcolons hlater (show _ ≤ fuel + 1 by omega)
  refine ⟨fun rest hrest => hplain.opensPath hrest, fun closing rest hrest => ?_⟩
  rw [tokens_path]
  exact takes_path hroot hhead htail hrest

end Paths

/-! ## Types -/

section Types

variable {type : Tree} {later : List (List Tree × Tree)}
  {opening place region ending : Option Region}

/-- A plain type comes back if it is read with one depth of recursion more than its parts. -/
theorem isReadBack_type (hplain : IsPlain .type type)
    (h : ∀ fuel, TokenTree.sizeAll type.tokens ≤ fuel + 1 → ∀ ⦃sums : Bool⦄
      ⦃closing : Option Region⦄ ⦃rest : List TokenTree⦄, Lacks (typeMarks sums) rest →
        Takes (treeWithin (fuel + 1) (.type sums)) closing type.tokens type rest) :
    IsReadBack .type type := by
  intro fuel hfuel
  have hsize := hplain.size_pos
  rw [PlainSort.slack] at hfuel
  obtain ⟨fuel, rfl⟩ : ∃ less, fuel = less + 1 := Nat.exists_eq_add_one.mpr (by omega)
  exact ⟨fun rest hrest => hplain.opensType hrest, h fuel hfuel⟩

theorem isReadBack_named {path : Tree} (hplain : IsPlain .path path) (h : IsReadBack .path path) :
    IsReadBack .type (.node .typePath [path]) := by
  refine isReadBack_type (.named hplain) fun fuel hfuel sums closing rest hrest => ?_
  rw [tokens_named] at hfuel ⊢
  have hpath : PathComesBack (within fuel) path := h fuel hfuel
  cases hplain with
  | path =>
    exact takes_pathType (hpath.opens (hrest "#" (by simp [typeMarks])))
      (hpath.takes (hrest.mono (by simp [typeMarks]))) hrest

theorem isReadBack_inherent (hplain : IsPlain .type (.node .typePath [.node .qualifiedPath
      (single '<' opening :: type :: single '>' ending :: writtenSegments later)]))
    (hsome : later ≠ []) (hcolons : ∀ entry ∈ later, IsColons entry.1)
    (htype : IsReadBack .type type) (hlater : ∀ entry ∈ later, IsReadBack .segment entry.2) :
    IsReadBack .type (.node .typePath [.node .qualifiedPath
      (single '<' opening :: type :: single '>' ending :: writtenSegments later)]) := by
  refine isReadBack_type hplain fun fuel hfuel sums closing rest hrest => ?_
  have htokens : (Tree.node .typePath [.node .qualifiedPath (single '<' opening :: type
      :: single '>' ending :: writtenSegments later)]).tokens = [.punct '<' false opening]
        ++ (type.tokens ++ (Tree.tokensAll []
          ++ ([.punct '>' false ending] ++ Tree.tokensAll (writtenSegments later)))) := by
    simp [Tree.tokens, single]
  rw [htokens] at hfuel ⊢
  simp only [sizeAll_append, TokenTree.sizeAll, TokenTree.size] at hfuel
  have hinner : TypeComesBack fuel type := htype fuel (by rw [PlainSort.slack]; omega)
  have hsegments := segments_comeBack hcolons hlater (show _ ≤ fuel + 1 by omega)
  exact takes_qualifiedType (fun others => hinner.takes (lacks_punct rfl)) (.inl rfl) hsome
    hsegments (hrest.mono (by simp [typeMarks]))

theorem isReadBack_associated {trait : Tree}
    (hplain : IsPlain .type (.node .typePath [.node .qualifiedPath (single '<' opening :: type
      :: .leaf (.word (.plain "as") place) :: trait :: single '>' ending
      :: writtenSegments later)]))
    (hsome : later ≠ []) (hcolons : ∀ entry ∈ later, IsColons entry.1)
    (htype : IsReadBack .type type) (htrait : IsReadBack .path trait)
    (hlater : ∀ entry ∈ later, IsReadBack .segment entry.2) :
    IsReadBack .type (.node .typePath [.node .qualifiedPath (single '<' opening :: type
      :: .leaf (.word (.plain "as") place) :: trait :: single '>' ending
      :: writtenSegments later)]) := by
  refine isReadBack_type hplain fun fuel hfuel sums closing rest hrest => ?_
  have htokens : (Tree.node .typePath [.node .qualifiedPath (single '<' opening :: type
      :: .leaf (.word (.plain "as") place) :: trait :: single '>' ending
      :: writtenSegments later)]).tokens = [.punct '<' false opening]
        ++ (type.tokens ++ (Tree.tokensAll [.leaf (.word (.plain "as") place), trait]
          ++ ([.punct '>' false ending] ++ Tree.tokensAll (writtenSegments later)))) := by
    simp [Tree.tokens, single]
  rw [htokens] at hfuel ⊢
  simp only [Tree.tokensAll_cons, Tree.tokensAll_nil, sizeAll_append, TokenTree.sizeAll,
    TokenTree.size] at hfuel
  have hinner : TypeComesBack fuel type := htype fuel (by rw [PlainSort.slack]; omega)
  have hpath : PathComesBack (within fuel) trait := htrait fuel (by rw [PlainSort.slack]; omega)
  have hsegments := segments_comeBack hcolons hlater (show _ ≤ fuel + 1 by omega)
  exact takes_qualifiedType (fun others => hinner.takes (lacks_word rfl))
    (.inr ⟨place, trait, rfl, fun others => hpath.takes (lacks_punct rfl)⟩) hsome hsegments
    (hrest.mono (by simp [typeMarks]))

theorem isReadBack_reference {lifetime word : List Tree}
    (hlifetime : lifetime = [] ∨ ∃ name, IsLifetime name ∧ lifetime = [name])
    (hword : word = [] ∨ ∃ place, word = [.leaf (.word (.plain "mut") place)])
    (hplain : IsPlain .type type) (h : IsReadBack .type type) :
    IsReadBack .type (typeNode ([single '&' region] ++ lifetime ++ word ++ [type])) := by
  refine isReadBack_type (.reference hlifetime hword hplain)
    fun fuel hfuel sums closing rest hrest => ?_
  have htokens : (typeNode ([single '&' region] ++ lifetime ++ word ++ [type])).tokens =
      [.punct '&' false region] ++ (Tree.tokensAll lifetime
        ++ (Tree.tokensAll word ++ type.tokens)) := by
    simp [typeNode, Tree.tokens, single]
  rw [htokens] at hfuel ⊢
  simp only [sizeAll_append, TokenTree.sizeAll, TokenTree.size] at hfuel
  exact takes_reference hlifetime hword (h fuel (by rw [PlainSort.slack]; omega)) hrest

theorem isReadBack_pointer {word : String} (hword : word = "const" ∨ word = "mut")
    (hplain : IsPlain .type type) (h : IsReadBack .type type) :
    IsReadBack .type
      (typeNode [single '*' region, .leaf (.word (.plain word) place), type]) := by
  refine isReadBack_type (.pointer hword hplain) fun fuel hfuel sums closing rest hrest => ?_
  have htokens : (typeNode [single '*' region, .leaf (.word (.plain word) place), type]).tokens =
      [.punct '*' false region] ++ ([.word (.plain word) place] ++ type.tokens) := by
    simp [typeNode, Tree.tokens, single]
  rw [htokens] at hfuel ⊢
  simp only [sizeAll_append, TokenTree.sizeAll, TokenTree.size] at hfuel
  exact takes_pointer hword (h fuel (by rw [PlainSort.slack]; omega)) hrest

theorem isReadBack_slice (hplain : IsPlain .type type) (h : IsReadBack .type type) :
    IsReadBack .type (typeNode [.group .bracket opening ending [type]]) := by
  refine isReadBack_type (.slice hplain) fun fuel hfuel sums closing rest hrest => ?_
  have htokens : (typeNode [.group .bracket opening ending [type]]).tokens =
      [.group .bracket opening ending (Tree.tokensAll [type])] := by
    simp [typeNode, Tree.tokens]
  rw [htokens] at hfuel ⊢
  simp only [Tree.tokensAll_cons, Tree.tokensAll_nil, List.append_nil, TokenTree.sizeAll,
    TokenTree.size] at hfuel
  exact takes_slice (h fuel (by rw [PlainSort.slack]; omega))

/-- A length is read three steps further down than the element, which its tokens leave room for. -/
theorem isReadBack_array {length : Tree} (hlength : IsLength length)
    (hplain : IsPlain .type type) (h : IsReadBack .type type) :
    IsReadBack .type (typeNode [.group .bracket opening ending
      [type, single ';' region, length]]) := by
  refine isReadBack_type (.array hplain hlength) fun fuel hfuel sums closing rest hrest => ?_
  have htypeSize := hplain.size_pos
  have hlengthSize : 0 < TokenTree.sizeAll length.tokens := by
    cases hlength <;> exact Nat.one_pos
  have htokens : (typeNode [.group .bracket opening ending
      [type, single ';' region, length]]).tokens =
      [.group .bracket opening ending (Tree.tokensAll [type, single ';' region, length])] := by
    simp [typeNode, Tree.tokens]
  rw [htokens] at hfuel ⊢
  simp only [Tree.tokensAll_cons, Tree.tokensAll_nil, List.append_nil, sizeAll_append, single,
    Tree.tokens, TokenTree.sizeAll, TokenTree.size] at hfuel
  obtain ⟨fuel, rfl⟩ : ∃ less, fuel = less + 3 := ⟨fuel - 3, by omega⟩
  exact takes_array (h (fuel + 3) (by rw [PlainSort.slack]; omega)) hlength

theorem isReadBack_tuple {elements : List (Tree × List Tree)} (hcommas : Separated elements)
    (hplain : ∀ entry ∈ elements, IsPlain .type entry.1)
    (h : ∀ entry ∈ elements, IsReadBack .type entry.1) :
    IsReadBack .type (typeNode [.group .parenthesis opening ending (written elements)]) := by
  refine isReadBack_type (.tuple hplain hcommas) fun fuel hfuel sums closing rest hrest => ?_
  have htokens : (typeNode [.group .parenthesis opening ending (written elements)]).tokens =
      [.group .parenthesis opening ending (Tree.tokensAll (written elements))] := by
    simp [typeNode, Tree.tokens]
  rw [htokens] at hfuel ⊢
  simp only [TokenTree.sizeAll, TokenTree.size] at hfuel
  exact takes_tuple hcommas (types_comeBack h (by omega)) hrest

end Types

/-! ## Arguments -/

section Arguments

variable {type : Tree} {opening region place ending : Option Region}

theorem isReadBack_argument (h : IsReadBack .type type) : IsReadBack .argument type := by
  intro fuel hfuel
  have htype : TypeComesBack fuel type := h fuel hfuel
  refine ⟨fun rest hrest => ?_, fun closing rest hrest => takes_typeArgument htype hrest⟩
  exact (htype.opens (operator_of_parameterBoundEnd hrest "#" (by simp))).closing

theorem isReadBack_literal {leaves : List Tree} (hleaves : IsLiteral leaves) :
    IsReadBack .argument (literalExpression leaves) := by
  intro fuel hfuel
  have htokens : (literalExpression leaves).tokens = Tree.tokensAll leaves := by
    simp [literalExpression, Tree.tokens]
  refine ⟨fun rest hrest => ?_, fun closing rest hrest => ?_⟩
  · cases hleaves <;> rfl
  · rw [htokens]
    exact takes_literalArgument hleaves

theorem isReadBack_equality {ident : Located Ident} (hname : ident.value.isName = true)
    (h : IsReadBack .type type) :
    IsReadBack .argument (.node .phrase [Tree.name ident, single '=' region, type]) := by
  intro fuel hfuel
  have htokens : (Tree.node .phrase [Tree.name ident, single '=' region, type]).tokens =
      [.word ident.value ident.region] ++ ([.punct '=' false region] ++ type.tokens) := by
    simp [Tree.tokens, Tree.name, single]
  rw [htokens] at hfuel
  simp only [sizeAll_append, TokenTree.sizeAll, TokenTree.size, PlainSort.slack] at hfuel
  obtain ⟨fuel, rfl⟩ : ∃ less, fuel = less + 1 := Nat.exists_eq_add_one.mpr (by omega)
  have htype : TypeComesBack (fuel + 1) type := h (fuel + 1) (by rw [PlainSort.slack]; omega)
  refine ⟨fun rest hrest => rfl, fun closing rest hrest => ?_⟩
  rw [htokens]
  exact takes_equality hname htype hrest

variable {inputs : List (Tree × List Tree)}

theorem isReadBack_inputs (hcommas : Separated inputs)
    (h : ∀ entry ∈ inputs, IsReadBack .type entry.1) :
    IsReadBack .call (.node .phrase [.group .parenthesis opening ending (written inputs)]) := by
  intro fuel hfuel
  have htokens : (Tree.node .phrase [.group .parenthesis opening ending (written inputs)]).tokens =
      [.group .parenthesis opening ending (Tree.tokensAll (written inputs))] := by
    simp [Tree.tokens]
  rw [htokens] at hfuel
  simp only [TokenTree.sizeAll, TokenTree.size, PlainSort.slack] at hfuel
  refine ⟨⟨_, _, _, _, rfl⟩, fun closing rest hrest => ?_⟩
  rw [htokens]
  exact takes_call hcommas (types_comeBack h (by omega)) hrest

theorem isReadBack_output (hcommas : Separated inputs)
    (hinputs : ∀ entry ∈ inputs, IsReadBack .type entry.1) (htype : IsReadBack .type type) :
    IsReadBack .call (.node .phrase (.group .parenthesis opening ending (written inputs)
      :: (double '-' '>' region place ++ [type]))) := by
  intro fuel hfuel
  have htokens : (Tree.node .phrase (.group .parenthesis opening ending (written inputs)
      :: (double '-' '>' region place ++ [type]))).tokens =
      [.group .parenthesis opening ending (Tree.tokensAll (written inputs))]
        ++ ([.punct '-' true region, .punct '>' false place] ++ type.tokens) := by
    simp [Tree.tokens, double]
  rw [htokens] at hfuel
  simp only [sizeAll_append, TokenTree.sizeAll, TokenTree.size, PlainSort.slack] at hfuel
  have hresult : TypeComesBack fuel type := htype fuel (by rw [PlainSort.slack]; omega)
  refine ⟨⟨_, _, _, _, rfl⟩, fun closing rest hrest => ?_⟩
  rw [htokens]
  exact takes_callOutput hcommas (types_comeBack hinputs (by omega)) hresult hrest

end Arguments

/-! ## Bounds -/

section Bounds

variable {modifier : List Tree}

theorem isReadBack_outlives {lifetime : Tree} (hlifetime : IsLifetime lifetime) :
    IsReadBack .bound (.node .phrase [lifetime]) := by
  intro fuel hfuel
  obtain ⟨joint, region, ident, place, rfl⟩ := hlifetime
  have hsize : 2 ≤ fuel := hfuel
  obtain ⟨fuel, rfl⟩ : ∃ less, fuel = less + 1 := Nat.exists_eq_add_one.mpr (by omega)
  exact ⟨fun rest hrest => rfl, fun captures constants closing rest hrest => rfl⟩

/-- A trait does not start where a sum of bounds ends. -/
theorem not_boundEnd_of_trait {tokens : List TokenTree} (hmodifier : IsModifier modifier)
    (hopens : OpensPath tokens) : typeBoundEnd (Tree.tokensAll modifier ++ tokens) = false := by
  cases hmodifier with
  | none => cases hopens <;> rfl
  | optional => rfl
  | binder => rfl

theorem isReadBack_trait {path : Tree} (hmodifier : IsModifier modifier)
    (hplain : IsPlain .path path) (h : IsReadBack .path path) :
    IsReadBack .bound (.node .phrase (modifier ++ [path])) := by
  intro fuel hfuel
  have htokens : (Tree.node .phrase (modifier ++ [path])).tokens =
      Tree.tokensAll modifier ++ path.tokens := by
    simp [Tree.tokens]
  have hsize := hplain.path_size_pos
  rw [htokens, sizeAll_append, PlainSort.slack] at hfuel
  obtain ⟨fuel, rfl⟩ : ∃ less, fuel = less + 1 := Nat.exists_eq_add_one.mpr (by omega)
  have hback : PathComesBack (within fuel) path := h fuel (by rw [PlainSort.slack]; omega)
  refine ⟨fun rest hrest => ?_, fun captures constants closing rest hrest => ?_⟩
  · rw [htokens, List.append_assoc]
    exact not_boundEnd_of_trait hmodifier (hback.opens hrest)
  · have hopens : OpensPath (path.tokens ++ rest) := hback.opens (hrest.marks "#" (by simp))
    have hpath : Takes (Grammar.path (within fuel) false) closing path.tokens path ([] ++ rest) :=
      hback.takes (hrest.marks.mono (by simp))
    rw [htokens]
    refine takes_traitRule hmodifier hopens ?_
    rw [← List.append_nil path.tokens] at hopens ⊢
    exact takes_traitBound hmodifier hopens hpath (takes_withoutCall hrest)

theorem isReadBack_callable {front : List Tree} {ident : Located Ident} {call : Tree}
    (hmodifier : IsModifier modifier)
    (hplain : IsPlain .path (.node .path (front ++ [.node .segment [Tree.name ident]])))
    (hpath : IsReadBack .path (.node .path (front ++ [.node .segment [Tree.name ident]])))
    (hcall : IsReadBack .call call) :
    IsReadBack .bound (.node .phrase
      (modifier ++ [.node .path (front ++ [.node .segment [Tree.name ident, call]])])) := by
  intro fuel hfuel
  have htokens : (Tree.node .phrase
      (modifier ++ [.node .path (front ++ [.node .segment [Tree.name ident, call]])])).tokens =
      Tree.tokensAll modifier ++ ((Tree.node .path
        (front ++ [.node .segment [Tree.name ident]])).tokens ++ call.tokens) := by
    simp [Tree.tokens]
  have hsize := hplain.path_size_pos
  rw [htokens, sizeAll_append, sizeAll_append, PlainSort.slack] at hfuel
  obtain ⟨fuel, rfl⟩ : ∃ less, fuel = less + 1 := Nat.exists_eq_add_one.mpr (by omega)
  have hback : PathComesBack (within fuel)
      (.node .path (front ++ [.node .segment [Tree.name ident]])) :=
    hpath fuel (by rw [PlainSort.slack]; omega)
  obtain ⟨⟨opening, ending, content, others, hgroup⟩, hcall⟩ : CallComesBack (within fuel) call :=
    hcall fuel (by rw [PlainSort.slack]; omega)
  have hopens (rest : List TokenTree) : OpensPath ((Tree.node .path
      (front ++ [.node .segment [Tree.name ident]])).tokens ++ (call.tokens ++ rest)) := by
    refine hback.opens ?_
    rw [hgroup]
    rfl
  refine ⟨fun rest hrest => ?_, fun captures constants closing rest hrest => ?_⟩
  · rw [htokens, List.append_assoc, List.append_assoc]
    exact not_boundEnd_of_trait hmodifier (hopens rest)
  · have hpath : Takes (path (within fuel) false) closing
        (Tree.node .path (front ++ [.node .segment [Tree.name ident]])).tokens
        (.node .path (front ++ [.node .segment [Tree.name ident]])) (call.tokens ++ rest) := by
      refine hback.takes ?_
      rw [hgroup]
      exact lacks_group rfl
    have hgiven : Takes (withCallArguments (within fuel)
        (.node .path (front ++ [.node .segment [Tree.name ident]]))) closing call.tokens
        (.node .path (front ++ [.node .segment [Tree.name ident, call]])) rest := by
      have hread : Takes (callArguments (within fuel)) closing call.tokens call rest := hcall hrest
      rw [hgroup] at hread ⊢
      exact takes_withCall hread
    have hahead := hopens rest
    rw [← List.append_assoc] at hahead
    rw [htokens]
    exact takes_traitRule hmodifier hahead (takes_traitBound hmodifier hahead hpath hgiven)

end Bounds

/-! ## All plain parts -/

/-- A plain part comes back from its tokens. -/
theorem IsPlain.isReadBack {sort : PlainSort} {tree : Tree} (h : IsPlain sort tree) :
    IsReadBack sort tree := by
  induction h with
  | word hword => exact isReadBack_word hword
  | applied hname hcolons hlifetimes harguments hcommas ih =>
    exact isReadBack_applied hname hcolons hlifetimes harguments hcommas ih
  | path hroot hfirst hcolons hlater ihfirst ihlater =>
    exact isReadBack_path hroot (.path hroot hfirst hcolons hlater) hcolons ihfirst ihlater
  | named hpath ih => exact isReadBack_named hpath ih
  | inherent htype hsome hcolons hlater ihtype ihlater =>
    exact isReadBack_inherent (.inherent htype hsome hcolons hlater) hsome hcolons ihtype ihlater
  | associated htype htrait hsome hcolons hlater ihtype ihtrait ihlater =>
    exact isReadBack_associated (.associated htype htrait hsome hcolons hlater) hsome hcolons
      ihtype ihtrait ihlater
  | inferred => exact isReadBack_type .inferred fun fuel _ sums closing rest _ => takes_inferred
  | never => exact isReadBack_type .never fun fuel _ sums closing rest _ => takes_never
  | reference hlifetime hword htarget ih => exact isReadBack_reference hlifetime hword htarget ih
  | pointer hword htarget ih => exact isReadBack_pointer hword htarget ih
  | slice helement ih => exact isReadBack_slice helement ih
  | array helement hlength ih => exact isReadBack_array hlength helement ih
  | tuple helements hcommas ih => exact isReadBack_tuple hcommas helements ih
  | type htype ih => exact isReadBack_argument ih
  | literal hleaves => exact isReadBack_literal hleaves
  | equality hname htype ih => exact isReadBack_equality hname ih
  | inputs hinputs hcommas ih => exact isReadBack_inputs hcommas ih
  | output hinputs hcommas htype ihinputs ihtype =>
    exact isReadBack_output hcommas ihinputs ihtype
  | outlives hlifetime => exact isReadBack_outlives hlifetime
  | trait hmodifier hpath ih => exact isReadBack_trait hmodifier hpath ih
  | callable hmodifier hpath hcall ihpath ihcall =>
    exact isReadBack_callable hmodifier hpath ihpath ihcall

end Grammar

end Counterpart
