import Counterpart.Proofs.GenericsInStep
import Counterpart.Proofs.HostScope

/-!
# Plain parts that left their host

A counterpart has the generic parameters of its host with `Self` replaced by the type of the host.
Plain parts stay plain this way: a path that goes on behind `Self` becomes a path that starts at the
type. So the parameters of the counterpart come back from its declaration, from the headers of its
implementations and from its template.

The type is put in as it is written, with the names of the parameters as arguments, while a parser
reads each of them as the argument that it is. This makes no difference to the tokens. To follow it,
the substitution is compared with another one, whose type is the one that is read.
-/

namespace Counterpart

open Counterpart.Parser Grammar

namespace Substitution

variable (substitution : Substitution)

/-! ## Lists with `Self` replaced -/

/-- Pieces with `Self` replaced in them. -/
def inPieces (pieces : List (Tree × List Tree)) : List (Tree × List Tree) :=
  pieces.map fun piece => (substitution.inTree piece.1, piece.2)

/-- Segments of a path with `Self` replaced in their arguments. -/
def inSegments (segments : List (List Tree × Tree)) : List (List Tree × Tree) :=
  segments.map fun entry => (entry.1, substitution.inTree entry.2)

theorem inTrees_cons (first : Tree) (others : List Tree) :
    substitution.inTrees (first :: others) =
      substitution.inTree first :: substitution.inTrees others := by
  rw [inTrees]

theorem inTrees_append (first second : List Tree) :
    substitution.inTrees (first ++ second) =
      substitution.inTrees first ++ substitution.inTrees second := by
  simp only [inTrees_eq_map, List.map_append]

theorem inTree_phrase (parts : List Tree) :
    substitution.inTree (.node .phrase parts) = .node .phrase (substitution.inTrees parts) := by
  rw [inTree] <;> nofun

theorem inTrees_colons {colons : List Tree} (h : IsColons colons) :
    substitution.inTrees colons = colons := by
  obtain ⟨region, place, rfl⟩ := h
  rfl

theorem inTrees_written {pieces : List (Tree × List Tree)} (h : Separated pieces) :
    substitution.inTrees (written pieces) = written (substitution.inPieces pieces) := by
  induction h with
  | nil => rfl
  | last => rfl
  | @more piece region pieces hpieces ih =>
    have hwritten : written ((piece, [single ',' region]) :: pieces) =
        [piece, single ',' region] ++ written pieces := rfl
    rw [hwritten, inTrees_append, ih]
    rfl

theorem inTrees_writtenSegments {later : List (List Tree × Tree)}
    (hcolons : ∀ entry ∈ later, IsColons entry.1) :
    substitution.inTrees (writtenSegments later) =
      writtenSegments (substitution.inSegments later) := by
  induction later with
  | nil => rfl
  | cons entry later ih =>
    obtain ⟨hhead, htail⟩ := List.forall_mem_cons.mp hcolons
    rw [writtenSegments, List.flatMap_cons, ← writtenSegments, inTrees_append, ih htail,
      inTrees_append, inTrees_colons substitution hhead]
    rfl

/-- Lifetimes do not mention the host. -/
theorem inPieces_lifetimes {lifetimes : List (Tree × List Tree)}
    (h : ∀ entry ∈ lifetimes, IsLifetime entry.1) :
    substitution.inPieces lifetimes = lifetimes := by
  refine (List.map_congr_left fun entry hentry => ?_).trans (List.map_id _)
  rw [inTree_lifetime substitution (h entry hentry)]
  rfl

theorem inTrees_modifier {modifier : List Tree} (h : IsModifier modifier) :
    substitution.inTrees modifier = modifier := by
  cases h with
  | none => rfl
  | optional => rfl
  | @binder lifetimes place opening closing hlifetimes hcommas =>
    have hsame :
        substitution.inPieces (lifetimes.map fun entry => (.node .phrase [entry.1], entry.2)) =
          lifetimes.map fun entry => (.node .phrase [entry.1], entry.2) := by
      rw [inPieces, List.map_map]
      refine List.map_congr_left fun entry hentry => ?_
      rw [Function.comp_apply, inTree_phrase, inTrees,
        inTree_lifetime substitution (hlifetimes entry hentry), inTrees]
    have hwritten := inTrees_written substitution
      (hcommas.map fun lifetime => .node .phrase [lifetime])
    rw [hsame] at hwritten
    have hlist : introducedLifetimes lifetimes place opening closing =
        [.leaf (.word (.plain "for") place), single '<' opening]
          ++ (written (lifetimes.map fun entry => (.node .phrase [entry.1], entry.2))
            ++ [single '>' closing]) := rfl
    rw [hlist, inTrees_append, inTrees_append, hwritten]
    rfl

/-! ## Constants -/

theorem inTree_literalExpression {leaves : List Tree} (h : IsLiteral leaves) :
    substitution.inTree (literalExpression leaves) = literalExpression leaves := by
  cases h <;> rfl

theorem inTree_nameExpression {ident : Located Ident} (hname : ident.value.isName = true) :
    substitution.inTree (nameExpression ident) = nameExpression ident := by
  have hself : selfPath? [Tree.pathOfName ident] = none := by
    have hword : ident.value.isWord selfWord = false := Ident.isWord_of_isName hname (by decide)
    simp [selfPath?, Tree.pathOfName, Tree.name, behindSelf?, hword]
  rw [nameExpression, inTree, hself]
  rfl

theorem inTree_length {length : Tree} (h : IsLength length) :
    substitution.inTree length = length := by
  cases h with
  | literal => rfl
  | name hname => exact inTree_nameExpression substitution hname

theorem inTree_constant {constant : Tree} (h : IsConstant constant) :
    substitution.inTree constant = constant := by
  cases h with
  | literal hleaves => exact inTree_literalExpression substitution hleaves
  | name hname => exact inTree_nameExpression substitution hname

/-! ## Paths that are types -/

/-- A path that is only `Self` becomes the type of the host. -/
theorem inTree_selfType (region : Option Region) (arguments : List Tree) :
    substitution.inTree (.node .typePath [selfPath region arguments []]) =
      substitution.hostType := by
  have hself : selfPath? [selfPath region arguments []] = some [] := rfl
  rw [inTree, hself]

/-- A path that goes on behind `Self` becomes one that starts at the type of the host. -/
theorem inTree_selfRest (region : Option Region) (arguments : List Tree) {rest : List Tree}
    (hsome : rest ≠ []) :
    substitution.inTree (.node .typePath [selfPath region arguments rest]) =
      .node .typePath [substitution.qualified (substitution.inTrees rest)] := by
  obtain ⟨first, others, rfl⟩ := List.exists_cons_of_ne_nil hsome
  have hself : selfPath? [selfPath region arguments (first :: others)] =
      some (first :: others) := rfl
  rw [inTree, hself]
  rfl

theorem inTree_otherType {path : Tree} (h : ¬ StartsWithSelf path) :
    substitution.inTree (.node .typePath [path]) = .node .typePath [substitution.inTree path] := by
  have hnone : selfPath? [path] = none :=
    selfPath?_eq_none_iff.mpr (List.forall_mem_singleton.mpr h)
  rw [inTree, hnone, inTrees, inTrees]

/-! ## Code that is carried over alike -/

variable {substitution} {read : Substitution} {sort : PlainSort} {tree : Tree}
  {pieces : List (Tree × List Tree)} {later : List (List Tree × Tree)}

/-- Two substitutions with types that have the same tokens, the second of them plain. -/
structure SameType (substitution read : Substitution) : Prop where
  plain : Grammar.IsPlain .type read.hostType
  tokens : substitution.hostType.tokens = read.hostType.tokens

/-- Code that two substitutions carry over alike: it is plain after the second one, and the first
one leads to the same tokens. -/
structure CarriesPlain (substitution read : Substitution) (sort : PlainSort) (tree : Tree) :
    Prop where
  plain : Grammar.IsPlain sort (read.inTree tree)
  tokens : (substitution.inTree tree).tokens = (read.inTree tree).tokens

theorem carriesPlain_of_inTree {after : Substitution → Tree}
    (h : ∀ replacing : Substitution, replacing.inTree tree = after replacing)
    (hplain : Grammar.IsPlain sort (after read))
    (htokens : (after substitution).tokens = (after read).tokens) :
    CarriesPlain substitution read sort tree :=
  ⟨by rwa [h], by rwa [h, h]⟩

theorem plain_inPieces (h : ∀ entry ∈ pieces, CarriesPlain substitution read sort entry.1) :
    ∀ entry ∈ read.inPieces pieces, Grammar.IsPlain sort entry.1 :=
  List.forall_mem_map.mpr fun entry hentry => (h entry hentry).plain

theorem plain_inSegments (h : ∀ entry ∈ later, CarriesPlain substitution read sort entry.2) :
    ∀ entry ∈ read.inSegments later, Grammar.IsPlain sort entry.2 :=
  List.forall_mem_map.mpr fun entry hentry => (h entry hentry).plain

theorem colons_inSegments (h : ∀ entry ∈ later, IsColons entry.1) :
    ∀ entry ∈ read.inSegments later, IsColons entry.1 :=
  List.forall_mem_map.mpr h

theorem tokens_inPieces (h : ∀ entry ∈ pieces, CarriesPlain substitution read sort entry.1) :
    Tree.tokensAll (written (substitution.inPieces pieces)) =
      Tree.tokensAll (written (read.inPieces pieces)) := by
  induction pieces with
  | nil => rfl
  | cons entry pieces ih =>
    obtain ⟨hhead, htail⟩ := List.forall_mem_cons.mp h
    have hrest := ih htail
    simp only [inPieces, written, List.map_cons, List.flatMap_cons, Tree.tokensAll_append,
      Tree.tokensAll_cons, hhead.tokens] at hrest ⊢
    rw [hrest]

theorem tokens_inSegments (h : ∀ entry ∈ later, CarriesPlain substitution read sort entry.2) :
    Tree.tokensAll (writtenSegments (substitution.inSegments later)) =
      Tree.tokensAll (writtenSegments (read.inSegments later)) := by
  induction later with
  | nil => rfl
  | cons entry later ih =>
    obtain ⟨hhead, htail⟩ := List.forall_mem_cons.mp h
    have hrest := ih htail
    rw [inSegments, inSegments, List.map_cons, List.map_cons, tokens_segments, tokens_segments,
      hhead.tokens, ← inSegments, ← inSegments, hrest]

/-! ## Paths -/

/-- A path with segments that are carried over alike. It does not stand for a type yet. -/
inductive CarriesPath (substitution read : Substitution) : Tree → Prop
  | mk {root : List Tree} {ident : Located Ident} {parts : List Tree}
      {later : List (List Tree × Tree)} (hroot : root = [] ∨ IsColons root)
      (hfirst : CarriesPlain substitution read .segment (.node .segment (Tree.name ident :: parts)))
      (hcolons : ∀ entry ∈ later, IsColons entry.1)
      (hlater : ∀ entry ∈ later, CarriesPlain substitution read .segment entry.2) :
    CarriesPath substitution read (.node .path
      (root ++ .node .segment (Tree.name ident :: parts) :: writtenSegments later))

theorem carriesPlain_applied {ident : Located Ident} {colons : List Tree}
    {lifetimes arguments : List (Tree × List Tree)} {opening closing : Option Region}
    (hname : ident.value.isName = true ∨ ident.value = .plain "Self")
    (hcolons : colons = [] ∨ IsColons colons)
    (hlifetimes : ∀ entry ∈ lifetimes, IsLifetime entry.1)
    (harguments : ∀ entry ∈ arguments, CarriesPlain substitution read .argument entry.1)
    (hcommas : Separated (lifetimes ++ arguments)) :
    CarriesPlain substitution read .segment (.node .segment [Tree.name ident, .node .phrase (colons
      ++ (single '<' opening :: (written (lifetimes ++ arguments) ++ [single '>' closing])))]) := by
  have hpieces (replacing : Substitution) : replacing.inPieces (lifetimes ++ arguments) =
      lifetimes ++ replacing.inPieces arguments := by
    have happend : replacing.inPieces (lifetimes ++ arguments) =
        replacing.inPieces lifetimes ++ replacing.inPieces arguments := List.map_append
    rw [happend, inPieces_lifetimes replacing hlifetimes]
  have hsame (replacing : Substitution) : replacing.inTree (.node .segment [Tree.name ident,
      .node .phrase (colons
        ++ (single '<' opening :: (written (lifetimes ++ arguments) ++ [single '>' closing])))]) =
      .node .segment [Tree.name ident, .node .phrase (colons ++ (single '<' opening
        :: (written (lifetimes ++ replacing.inPieces arguments) ++ [single '>' closing])))] := by
    have hmarks : replacing.inTrees colons = colons := by
      rcases hcolons with rfl | hmark
      · rfl
      · exact inTrees_colons replacing hmark
    rw [inTree_segment, inTrees_cons, inTrees_cons, inTree_phrase, inTrees_append, inTrees_cons,
      inTrees_append, hmarks, inTrees_written replacing hcommas, hpieces]
    rfl
  have hseparated : Separated (lifetimes ++ read.inPieces arguments) := by
    rw [← hpieces]
    exact hcommas.map read.inTree
  refine carriesPlain_of_inTree hsame
    (.applied hname hcolons hlifetimes (plain_inPieces harguments) hseparated) ?_
  have htokens := tokens_inPieces harguments
  simp only [Tree.tokens, Tree.tokensAll_cons, Tree.tokensAll_append, written,
    List.flatMap_append] at htokens ⊢
  rw [htokens]

theorem CarriesPath.carriesPlain (h : CarriesPath substitution read tree) :
    CarriesPlain substitution read .path tree := by
  cases h with
  | @mk root ident parts later hroot hfirst hcolons hlater =>
    have hsame (replacing : Substitution) : replacing.inTree (.node .path
        (root ++ .node .segment (Tree.name ident :: parts) :: writtenSegments later)) =
        .node .path (root ++ replacing.inTree (.node .segment (Tree.name ident :: parts))
          :: writtenSegments (replacing.inSegments later)) := by
      have hroots : replacing.inTrees root = root := by
        rcases hroot with rfl | hmark
        · rfl
        · exact inTrees_colons replacing hmark
      rw [inTree_path, inTrees_append, hroots, inTrees, inTrees_writtenSegments replacing hcolons]
    refine carriesPlain_of_inTree hsame
      (.path hroot hfirst.plain (colons_inSegments hcolons) (plain_inSegments hlater)) ?_
    rw [tokens_path, tokens_path, hfirst.tokens, tokens_inSegments hlater]

theorem CarriesPath.carriesType (h : CarriesPath substitution read tree)
    (htype : SameType substitution read) :
    CarriesPlain substitution read .type (.node .typePath [tree]) := by
  have hother (hnone : ¬ StartsWithSelf tree) :
      CarriesPlain substitution read .type (.node .typePath [tree]) := by
    have hpath := h.carriesPlain
    refine carriesPlain_of_inTree (fun replacing => inTree_otherType replacing hnone)
      (.named hpath.plain) ?_
    simp only [Tree.tokens, Tree.tokensAll_cons, hpath.tokens]
  cases h with
  | @mk root ident parts later hroot hfirst hcolons hlater =>
    rcases hroot with rfl | ⟨region, place, rfl⟩
    · obtain ⟨value, region⟩ := ident
      by_cases hword : value = .plain "Self"
      · subst hword
        cases later with
        | nil =>
          exact carriesPlain_of_inTree (fun replacing => inTree_selfType replacing region parts)
            htype.plain htype.tokens
        | cons entry later =>
          have hsame (replacing : Substitution) : replacing.inTree (.node .typePath
              [selfPath region parts (writtenSegments (entry :: later))]) =
              .node .typePath [.node .qualifiedPath (single '<' none :: replacing.hostType
                :: single '>' none
                :: writtenSegments (replacing.inSegments (entry :: later)))] := by
            rw [inTree_selfRest replacing region parts (by simp [writtenSegments]),
              inTrees_writtenSegments replacing hcolons]
            rfl
          refine carriesPlain_of_inTree hsame (.inherent htype.plain (by simp [inSegments])
            (colons_inSegments hcolons) (plain_inSegments hlater)) ?_
          have hsegments := tokens_inSegments hlater
          simp only [Tree.tokens, Tree.tokensAll_cons, htype.tokens, hsegments]
      · refine hother ?_
        rintro ⟨other, arguments, rest, hself⟩
        cases hself
        exact hword rfl
    · refine hother ?_
      rintro ⟨other, arguments, rest, hself⟩
      cases hself

/-! ## Types and bounds -/

theorem carriesPlain_inherent {type : Tree} {opening closing : Option Region}
    (htype : CarriesPlain substitution read .type type) (hsome : later ≠ [])
    (hcolons : ∀ entry ∈ later, IsColons entry.1)
    (hlater : ∀ entry ∈ later, CarriesPlain substitution read .segment entry.2) :
    CarriesPlain substitution read .type (.node .typePath [.node .qualifiedPath
      (single '<' opening :: type :: single '>' closing :: writtenSegments later)]) := by
  have hsame (replacing : Substitution) : replacing.inTree (.node .typePath [.node .qualifiedPath
      (single '<' opening :: type :: single '>' closing :: writtenSegments later)]) =
      .node .typePath [.node .qualifiedPath (single '<' opening :: replacing.inTree type
        :: single '>' closing :: writtenSegments (replacing.inSegments later))] := by
    rw [← inTrees_writtenSegments replacing hcolons]
    rfl
  refine carriesPlain_of_inTree hsame (.inherent htype.plain (by simpa [inSegments] using hsome)
    (colons_inSegments hcolons) (plain_inSegments hlater)) ?_
  have hsegments := tokens_inSegments hlater
  simp only [Tree.tokens, Tree.tokensAll_cons, htype.tokens, hsegments]

theorem carriesPlain_associated {type trait : Tree} {opening place closing : Option Region}
    (htype : CarriesPlain substitution read .type type)
    (htrait : CarriesPlain substitution read .path trait) (hsome : later ≠ [])
    (hcolons : ∀ entry ∈ later, IsColons entry.1)
    (hlater : ∀ entry ∈ later, CarriesPlain substitution read .segment entry.2) :
    CarriesPlain substitution read .type (.node .typePath [.node .qualifiedPath
      (single '<' opening :: type :: .leaf (.word (.plain "as") place) :: trait
        :: single '>' closing :: writtenSegments later)]) := by
  have hsame (replacing : Substitution) : replacing.inTree (.node .typePath [.node .qualifiedPath
      (single '<' opening :: type :: .leaf (.word (.plain "as") place) :: trait
        :: single '>' closing :: writtenSegments later)]) =
      .node .typePath [.node .qualifiedPath (single '<' opening :: replacing.inTree type
        :: .leaf (.word (.plain "as") place) :: replacing.inTree trait :: single '>' closing
        :: writtenSegments (replacing.inSegments later))] := by
    rw [← inTrees_writtenSegments replacing hcolons]
    rfl
  refine carriesPlain_of_inTree hsame (.associated htype.plain htrait.plain
    (by simpa [inSegments] using hsome) (colons_inSegments hcolons) (plain_inSegments hlater)) ?_
  have hsegments := tokens_inSegments hlater
  simp only [Tree.tokens, Tree.tokensAll_cons, htype.tokens, htrait.tokens, hsegments]

theorem carriesPlain_reference {lifetime word : List Tree} {target : Tree} {region : Option Region}
    (hlifetime : lifetime = [] ∨ ∃ name, IsLifetime name ∧ lifetime = [name])
    (hword : word = [] ∨ ∃ place, word = [.leaf (.word (.plain "mut") place)])
    (htarget : CarriesPlain substitution read .type target) :
    CarriesPlain substitution read .type
      (typeNode ([single '&' region] ++ lifetime ++ word ++ [target])) := by
  have hlifetimes (replacing : Substitution) : replacing.inTrees lifetime = lifetime := by
    rcases hlifetime with rfl | ⟨name, hname, rfl⟩
    · rfl
    · rw [inTrees, inTree_lifetime replacing hname, inTrees]
  have hwords (replacing : Substitution) : replacing.inTrees word = word := by
    rcases hword with rfl | ⟨place, rfl⟩ <;> rfl
  have hsame (replacing : Substitution) : replacing.inTree
      (typeNode ([single '&' region] ++ lifetime ++ word ++ [target])) =
      typeNode ([single '&' region] ++ lifetime ++ word ++ [replacing.inTree target]) := by
    have htrees : replacing.inTree
        (typeNode ([single '&' region] ++ lifetime ++ word ++ [target])) =
        typeNode (replacing.inTrees ([single '&' region] ++ lifetime ++ word ++ [target])) := rfl
    rw [htrees, inTrees_append, inTrees_append, inTrees_append, hlifetimes, hwords]
    rfl
  refine carriesPlain_of_inTree hsame (.reference hlifetime hword htarget.plain) ?_
  simp only [typeNode, Tree.tokens, Tree.tokensAll_append, Tree.tokensAll_cons, htarget.tokens]

theorem carriesPlain_tuple {opening closing : Option Region}
    (helements : ∀ entry ∈ pieces, CarriesPlain substitution read .type entry.1)
    (hcommas : Separated pieces) :
    CarriesPlain substitution read .type
      (typeNode [.group .parenthesis opening closing (written pieces)]) := by
  have hsame (replacing : Substitution) :
      replacing.inTree (typeNode [.group .parenthesis opening closing (written pieces)]) =
        typeNode [.group .parenthesis opening closing (written (replacing.inPieces pieces))] := by
    rw [← inTrees_written replacing hcommas]
    rfl
  refine carriesPlain_of_inTree hsame
    (.tuple (plain_inPieces helements) (hcommas.map read.inTree)) ?_
  have helement := tokens_inPieces helements
  simp only [typeNode, Tree.tokens, Tree.tokensAll_cons, helement]

theorem carriesPlain_inputs {opening closing : Option Region}
    (hinputs : ∀ entry ∈ pieces, CarriesPlain substitution read .type entry.1)
    (hcommas : Separated pieces) :
    CarriesPlain substitution read .call
      (.node .phrase [.group .parenthesis opening closing (written pieces)]) := by
  have hsame (replacing : Substitution) :
      replacing.inTree (.node .phrase [.group .parenthesis opening closing (written pieces)]) =
        .node .phrase [.group .parenthesis opening closing
          (written (replacing.inPieces pieces))] := by
    rw [← inTrees_written replacing hcommas]
    rfl
  refine carriesPlain_of_inTree hsame
    (.inputs (plain_inPieces hinputs) (hcommas.map read.inTree)) ?_
  have hinput := tokens_inPieces hinputs
  simp only [Tree.tokens, Tree.tokensAll_cons, hinput]

theorem carriesPlain_output {type : Tree} {opening closing region place : Option Region}
    (hinputs : ∀ entry ∈ pieces, CarriesPlain substitution read .type entry.1)
    (hcommas : Separated pieces) (htype : CarriesPlain substitution read .type type) :
    CarriesPlain substitution read .call
      (.node .phrase (.group .parenthesis opening closing (written pieces)
        :: (double '-' '>' region place ++ [type]))) := by
  have hsame (replacing : Substitution) : replacing.inTree
      (.node .phrase (.group .parenthesis opening closing (written pieces)
        :: (double '-' '>' region place ++ [type]))) =
      .node .phrase (.group .parenthesis opening closing (written (replacing.inPieces pieces))
        :: (double '-' '>' region place ++ [replacing.inTree type])) := by
    rw [← inTrees_written replacing hcommas]
    rfl
  refine carriesPlain_of_inTree hsame
    (.output (plain_inPieces hinputs) (hcommas.map read.inTree) htype.plain) ?_
  have hinput := tokens_inPieces hinputs
  simp only [Tree.tokens, Tree.tokensAll_cons, Tree.tokensAll_append, hinput, htype.tokens]

theorem carriesPlain_trait {modifier : List Tree} {path : Tree} (hmodifier : IsModifier modifier)
    (hpath : CarriesPlain substitution read .path path) :
    CarriesPlain substitution read .bound (.node .phrase (modifier ++ [path])) := by
  have hsame (replacing : Substitution) : replacing.inTree (.node .phrase (modifier ++ [path])) =
      .node .phrase (modifier ++ [replacing.inTree path]) := by
    rw [inTree_phrase, inTrees_append, inTrees_modifier replacing hmodifier]
    rfl
  refine carriesPlain_of_inTree hsame (.trait hmodifier hpath.plain) ?_
  simp only [Tree.tokens, Tree.tokensAll_append, Tree.tokensAll_cons, hpath.tokens]

theorem carriesPlain_callable {modifier front : List Tree} {ident : Located Ident} {call : Tree}
    (hmodifier : IsModifier modifier)
    (hpath : CarriesPlain substitution read .path
      (.node .path (front ++ [.node .segment [Tree.name ident]])))
    (hcall : CarriesPlain substitution read .call call) :
    CarriesPlain substitution read .bound (.node .phrase
      (modifier ++ [.node .path (front ++ [.node .segment [Tree.name ident, call]])])) := by
  have hsegments (replacing : Substitution) (parts : List Tree) : replacing.inTree
      (.node .path (front ++ [.node .segment (Tree.name ident :: parts)])) =
      .node .path (replacing.inTrees front
        ++ [.node .segment (Tree.name ident :: replacing.inTrees parts)]) := by
    rw [inTree_path, inTrees_append]
    rfl
  have hsame (replacing : Substitution) : replacing.inTree (.node .phrase
      (modifier ++ [.node .path (front ++ [.node .segment [Tree.name ident, call]])])) =
      .node .phrase (modifier ++ [.node .path (replacing.inTrees front
        ++ [.node .segment [Tree.name ident, replacing.inTree call]])]) := by
    rw [inTree_phrase, inTrees_append, inTrees_modifier replacing hmodifier, inTrees, hsegments]
    rfl
  have hplain := hpath.plain
  have htokens := hpath.tokens
  rw [hsegments] at hplain
  rw [hsegments, hsegments] at htokens
  have hfront : Tree.tokensAll (substitution.inTrees front) =
      Tree.tokensAll (read.inTrees front) := by
    simpa [Tree.tokens, inTrees] using htokens
  refine carriesPlain_of_inTree hsame (.callable hmodifier hplain hcall.plain) ?_
  simp only [Tree.tokens, Tree.tokensAll_append, Tree.tokensAll_cons, hfront, hcall.tokens]

/-- What is said of code of each form. -/
def Carries (substitution read : Substitution) : PlainSort → Tree → Prop
  | .path => CarriesPath substitution read
  | .segment => CarriesPlain substitution read .segment
  | .type => CarriesPlain substitution read .type
  | .argument => CarriesPlain substitution read .argument
  | .call => CarriesPlain substitution read .call
  | .bound => CarriesPlain substitution read .bound

/-- Plain code is carried over alike by substitutions whose types have the same tokens, if the type
of the second one is plain. -/
theorem carries_of_isPlain (htype : SameType substitution read) (h : Grammar.IsPlain sort tree) :
    Carries substitution read sort tree := by
  induction h with
  | word hword => exact carriesPlain_of_inTree (fun _ => rfl) (.word hword) rfl
  | applied hname hcolons hlifetimes harguments hcommas ih =>
    exact carriesPlain_applied hname hcolons hlifetimes ih hcommas
  | path hroot hfirst hcolons hlater ihfirst ihlater =>
    cases hfirst with
    | word hword => exact .mk hroot ihfirst hcolons ihlater
    | applied => exact .mk hroot ihfirst hcolons ihlater
  | named hpath ih => exact CarriesPath.carriesType ih htype
  | inherent htarget hsome hcolons hlater ih ihlater =>
    exact carriesPlain_inherent ih hsome hcolons ihlater
  | associated htarget htrait hsome hcolons hlater ih ihtrait ihlater =>
    exact carriesPlain_associated ih (CarriesPath.carriesPlain ihtrait) hsome hcolons ihlater
  | inferred => exact carriesPlain_of_inTree (fun _ => rfl) .inferred rfl
  | never => exact carriesPlain_of_inTree (fun _ => rfl) .never rfl
  | reference hlifetime hword htarget ih => exact carriesPlain_reference hlifetime hword ih
  | pointer hword htarget ih =>
    refine ⟨.pointer hword ih.plain, ?_⟩
    simp only [inTree, inTrees, typeNode, single, Tree.tokens, Tree.tokensAll_cons, ih.tokens]
  | slice helement ih =>
    refine ⟨.slice ih.plain, ?_⟩
    simp only [inTree, inTrees, typeNode, Tree.tokens, Tree.tokensAll_cons, ih.tokens]
  | @array element length opening region closing helement hlength ih =>
    have hsame (replacing : Substitution) : replacing.inTree
        (typeNode [.group .bracket opening closing [element, single ';' region, length]]) =
        typeNode [.group .bracket opening closing
          [replacing.inTree element, single ';' region, length]] := by
      have hparts : replacing.inTrees [element, single ';' region, length] =
          [replacing.inTree element, single ';' region, length] := by
        rw [inTrees, inTrees, inTrees, inTree_length replacing hlength]
        rfl
      rw [← hparts]
      rfl
    refine carriesPlain_of_inTree hsame (.array ih.plain hlength) ?_
    simp only [typeNode, Tree.tokens, Tree.tokensAll_cons, ih.tokens]
  | tuple helements hcommas ih => exact carriesPlain_tuple ih hcommas
  | type htarget ih => exact ⟨.type ih.plain, ih.tokens⟩
  | literal hleaves =>
    exact carriesPlain_of_inTree (fun replacing => inTree_literalExpression replacing hleaves)
      (.literal hleaves) rfl
  | equality hname htarget ih =>
    refine ⟨.equality hname ih.plain, ?_⟩
    simp only [inTree, inTrees, Tree.name, single, Tree.tokens, Tree.tokensAll_cons, ih.tokens]
  | inputs hinputs hcommas ih => exact carriesPlain_inputs ih hcommas
  | output hinputs hcommas htarget ih ihtype => exact carriesPlain_output ih hcommas ihtype
  | @outlives lifetime hlifetime =>
    have hsame (replacing : Substitution) :
        replacing.inTree (.node .phrase [lifetime]) = .node .phrase [lifetime] := by
      rw [inTree_phrase, inTrees, inTree_lifetime replacing hlifetime, inTrees]
    exact carriesPlain_of_inTree hsame (.outlives hlifetime) rfl
  | trait hmodifier hpath ih =>
    exact carriesPlain_trait hmodifier (CarriesPath.carriesPlain ih)
  | callable hmodifier hpath hcall ih ihcall =>
    exact carriesPlain_callable hmodifier (CarriesPath.carriesPlain ih) ihcall


end Substitution

/-! ## The type of a host -/

namespace Generics

variable {parameters : List GenericParameter}

theorem tokens_argument (parameter : GenericParameter) :
    parameter.argument.tokens = parameter.name.tokens := by
  rw [GenericParameter.argument, nameType]
  split
  · rfl
  · split <;> simp [typeNode, Tree.tokens]

theorem isPlain_argument {parameter : GenericParameter} (h : parameter.IsRead)
    (hkind : isLifetime parameter = false) : Grammar.IsPlain .argument parameter.argument := by
  have hname {ident : Located Ident} (hname : ident.value.isName = true) :
      Grammar.IsPlain .argument (nameType (Tree.name ident)) := by
    rw [nameType_of_isName hname]
    exact .type (.named (.ofSegment (.word (Ident.isSegment_of_isName hname))))
  cases h with
  | lifetime => cases hkind
  | type hattributes hident => exact hname hident
  | placeholder => exact .type .inferred
  | const hattributes hident => exact hname hident

theorem written_argumentsOf (parameters : List GenericParameter) :
    written (argumentsOf parameters) =
      parameters.flatMap fun parameter => parameter.argument :: comma := by
  rw [written, argumentsOf, List.flatMap_map]

theorem separated_argumentsOf (parameters : List GenericParameter) :
    Separated (argumentsOf parameters) := by
  induction parameters with
  | nil => exact .nil
  | cons first others ih => exact .more ih

/-- The type of a host is plain as it is read. -/
theorem isPlain_typeOf {name : Located Ident} (hname : name.value.isName = true)
    (h : ∀ parameter ∈ parameters, parameter.IsRead) :
    Grammar.IsPlain .type (typeOf name parameters) := by
  have hlist : (lifetimesFirst parameters).flatMap (fun parameter => parameter.argument :: comma) =
      written (argumentsOf (parameters.filter isLifetime)
        ++ argumentsOf (parameters.filter (!isLifetime ·))) := by
    rw [← written_argumentsOf, argumentsOf, lifetimesFirst, List.map_append]
    rfl
  have hcommas : Separated (argumentsOf (parameters.filter isLifetime)
      ++ argumentsOf (parameters.filter (!isLifetime ·))) := by
    have hall := separated_argumentsOf (lifetimesFirst parameters)
    rwa [argumentsOf, lifetimesFirst, List.map_append] at hall
  have hlifetimes : ∀ entry ∈ argumentsOf (parameters.filter isLifetime), IsLifetime entry.1 := by
    refine List.forall_mem_map.mpr fun parameter hparameter => ?_
    obtain ⟨hmem, hkind⟩ := List.mem_filter.mp hparameter
    cases h parameter hmem with
    | lifetime hattributes hlifetime => exact hlifetime
    | type | placeholder | const => cases hkind
  have harguments : ∀ entry ∈ argumentsOf (parameters.filter (!isLifetime ·)),
      Grammar.IsPlain .argument entry.1 := by
    refine List.forall_mem_map.mpr fun parameter hparameter => ?_
    obtain ⟨hmem, hkind⟩ := List.mem_filter.mp hparameter
    exact isPlain_argument (h parameter hmem) (by simpa using hkind)
  rw [typeOf, hlist]
  exact .named (.ofSegment (.applied (.inl hname) (.inl rfl) hlifetimes harguments hcommas))

theorem tokens_typeOf (generics : Generics) (name : Located Ident) :
    (typeOf name generics.parameters).tokens = (generics.appliedType name).tokens := by
  have harguments : Tree.tokensAll ((lifetimesFirst generics.parameters).flatMap
      fun parameter => parameter.argument :: comma) = nameTokens generics.declaredOrder := by
    rw [← tokensAll_names, tokensAll_flatMap, tokensAll_flatMap, declaredOrder]
    simp only [Tree.tokensAll_cons, tokens_argument]
  rw [tokens_appliedType, typeOf]
  simp [segmentWith, Tree.tokens, Tree.name, Template.angles, Template.mark, Tree.operator,
    harguments]

end Generics

/-! ## Parameters -/

namespace Substitution

variable {substitution read : Substitution}

theorem isPlain_not_leaf {sort : PlainSort} {tree : Tree} (h : Grammar.IsPlain sort tree)
    (token : TokenTree) : tree ≠ .leaf token := by
  induction h with
  | type htype ih => exact ih
  | _ =>
    intro hleaf
    cases hleaf

theorem CarriesPlain.spelledAlike {sort : PlainSort} {tree : Tree}
    (h : CarriesPlain substitution read sort tree) :
    (substitution.inTree tree).SpelledAlike (read.inTree tree) :=
  ⟨h.tokens, fun token htoken => absurd htoken (isPlain_not_leaf h.plain token)⟩

variable {parameter : GenericParameter}

theorem SameType.type {tree : Tree} (h : SameType substitution read)
    (htree : Grammar.IsPlain .type tree) : CarriesPlain substitution read .type tree :=
  carries_of_isPlain h htree

theorem SameType.bound {tree : Tree} (h : SameType substitution read)
    (htree : Grammar.IsPlain .bound tree) : CarriesPlain substitution read .bound tree :=
  carries_of_isPlain h htree

theorem SameType.sum {bounds : List Tree} (h : SameType substitution read)
    (hbounds : IsSum (Grammar.IsPlain .bound) bounds) :
    IsSum (Grammar.IsPlain .bound) (read.inTrees bounds) ∧
      List.Forall₂ Tree.SpelledAlike (substitution.inTrees bounds) (read.inTrees bounds) := by
  induction hbounds with
  | nil => exact ⟨.nil, .nil⟩
  | last hfirst => exact ⟨.last (h.bound hfirst).plain, .cons (h.bound hfirst).spelledAlike .nil⟩
  | more hfirst hpieces ih =>
    exact ⟨.more (h.bound hfirst).plain ih.1,
      .cons (h.bound hfirst).spelledAlike (.cons (Tree.spelledAlike_refl _) ih.2)⟩

theorem SameType.default {kind : GenericKind} {value : Tree} (h : SameType substitution read)
    (hvalue : kind.IsPlainDefault value) :
    kind.IsPlainDefault (read.inTree value) ∧
      (substitution.inTree value).SpelledAlike (read.inTree value) := by
  cases kind with
  | const =>
    rw [inTree_constant substitution hvalue, inTree_constant read hvalue]
    exact ⟨hvalue, Tree.spelledAlike_refl value⟩
  | lifetime | type => exact ⟨(h.type hvalue).plain, (h.type hvalue).spelledAlike⟩

/-- A plain parameter stays plain. -/
theorem SameType.isPlain_inParameter (h : SameType substitution read) (hread : parameter.IsRead)
    (hplain : parameter.IsPlain) : (read.inParameter parameter).IsPlain where
  attributes := by
    rw [inParameter, hplain.attributes]
    rfl
  bounds := fun hkind => (h.sum (hplain.bounds hkind)).1
  type := by
    intro hkind
    cases hread with
    | lifetime | type | placeholder => cases hkind
    | const =>
      have htype := h.type (hplain.type rfl _ List.mem_cons_self)
      exact List.forall_mem_singleton.mpr htype.plain
  fallback := by
    rw [inParameter]
    rcases hplain.fallback with hnone | ⟨region, value, hsome, hvalue⟩
    · exact .inl (by rw [hnone, inTrees])
    · rw [hsome]
      exact .inr ⟨region, _, rfl, (h.default hvalue).1⟩

/-- A plain parameter is spelled alike by both substitutions. -/
theorem SameType.spelledAlike_inParameter (h : SameType substitution read)
    (hread : parameter.IsRead) (hplain : parameter.IsPlain) :
    (substitution.inParameter parameter).SpelledAlike (read.inParameter parameter) where
  kind := rfl
  keyword := rfl
  name := rfl
  colon := rfl
  attributes := by
    rw [inParameter, inParameter, hplain.attributes]
    exact ⟨rfl, rfl⟩
  lifetimes := by
    intro hkind
    cases hread with
    | lifetime hattributes hname hcolon hsum =>
      rw [inParameter, inParameter, inTrees_isSum substitution hsum, inTrees_isSum read hsum]
    | type | placeholder | const => cases hkind
  bounds := by
    rw [inParameter, inParameter]
    cases hread with
    | lifetime hattributes hname hcolon hsum =>
      rw [inTrees_isSum substitution hsum, inTrees_isSum read hsum]
      exact List.forall₂_same.mpr fun _ _ => Tree.spelledAlike_refl _
    | type | placeholder => exact (h.sum (hplain.bounds rfl)).2
    | const =>
      have htype := h.type (hplain.type rfl _ List.mem_cons_self)
      exact .cons htype.spelledAlike .nil
  fallback := by
    rw [inParameter, inParameter]
    rcases hplain.fallback with hnone | ⟨region, value, hsome, hvalue⟩
    · rw [hnone]
      exact .nil
    · rw [hsome]
      exact .cons (Tree.spelledAlike_refl _) (.cons (h.default hvalue).2 .nil)

/-- Plain parameters that are carried over are written like those that are read. -/
theorem SameType.writtenLike {generics : Generics} (h : SameType substitution read)
    (hread : ∀ parameter ∈ generics.parameters, parameter.IsRead)
    (hplain : ∀ parameter ∈ generics.parameters, parameter.IsPlain) :
    (substitution.inGenerics generics).WrittenLike (read.inGenerics generics) where
  written := List.forall_mem_map.mpr fun parameter hparameter =>
    isRead_inParameter substitution (hread parameter hparameter)
  read := List.forall_mem_map.mpr fun parameter hparameter =>
    isRead_inParameter read (hread parameter hparameter)
  plain := List.forall_mem_map.mpr fun parameter hparameter =>
    h.isPlain_inParameter (hread parameter hparameter) (hplain parameter hparameter)
  alike := by
    rw [inGenerics, inGenerics, List.forall₂_map_left_iff, List.forall₂_map_right_iff,
      List.forall₂_same]
    exact fun parameter hparameter =>
      h.spelledAlike_inParameter (hread parameter hparameter) (hplain parameter hparameter)

end Substitution

/-! ## Counterparts -/

namespace Host

/-- The substitution for a host with its type as it is read. -/
def readSubstitution (host : Host) : Substitution :=
  ⟨host.item.ident, Generics.typeOf host.item.ident host.item.generics.parameters⟩

/-- The parameters of the host as they are read from the template of its counterpart. -/
def readGenerics (host : Host) : Generics := host.readSubstitution.inGenerics host.item.generics

variable {host : Host}

theorem sameType_readSubstitution (hname : host.item.ident.value.isName = true)
    (hread : ∀ parameter ∈ host.item.generics.parameters, parameter.IsRead) :
    Substitution.SameType host.substitution host.readSubstitution :=
  ⟨Generics.isPlain_typeOf hname hread, (Generics.tokens_typeOf _ _).symm⟩

/-- Plain parameters of a host come back from all code that lists them: as they are from the code of
the host, and with `Self` replaced by its type, as it is read, from the code of its counterpart and
from the template of that. -/
theorem reads_plain_generics (hname : host.item.ident.value.isName = true)
    (hread : ∀ parameter ∈ host.item.generics.parameters, parameter.IsRead)
    (hplain : ∀ parameter ∈ host.item.generics.parameters, parameter.IsPlain) :
    host.item.generics.ReadsAs host.item.generics ∧
      host.counterpart.generics.ReadsAs host.readGenerics.settled ∧
      (host.substitution.inGenerics host.item.generics).ReadsAs host.readGenerics := by
  have htemplate : (host.substitution.inGenerics host.item.generics).WrittenLike
      host.readGenerics := (sameType_readSubstitution hname hread).writtenLike hread hplain
  exact ⟨(Generics.writtenLike_of_isPlain hread hplain).readsAs, htemplate.settled.readsAs,
    htemplate.readsAs⟩

end Host

end Counterpart
