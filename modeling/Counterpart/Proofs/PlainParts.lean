import Counterpart.Proofs.AppliedGenerics

/-!
# Plain parts of generic parameters

The parts of a generic parameter are its bounds, its type and its default. Most of them are made of
a few forms: paths with arguments in angle brackets, references, pointers, slices, arrays, tuples,
lifetimes, traits with or without arguments in parentheses, and constants that are a literal or a
name. A part of these forms (`IsPlain`) has no attributes in it, and no operators in its
expressions. Trait objects, function types, macro calls and blocks are left out.

What is said of all of them here is how their tokens start, since this is what a parser sees of them
before it reads them.
-/

namespace Counterpart

open Counterpart.Parser

/-! ## Words and punctuation -/

/-- A word of a path is none of the other words that the grammar keeps for itself. -/
theorem Ident.IsSegment.isWord {ident : Ident} (h : ident.IsSegment) (word : String)
    (hword : Grammar.moduleSegment [.word (.plain word) none] = false) :
    ident.isWord word = false := by
  rw [Bool.eq_false_iff]
  intro hplain
  rw [isWord_iff] at hplain
  subst hplain
  rw [IsSegment, hword] at h
  cases h

namespace Grammar

/-- An operator of two characters as it is read. -/
def double (first second : Char) (region place : Option Region) : List Tree :=
  [.leaf (.punct first true region), .leaf (.punct second false place)]

/-- A double colon as it is read. -/
def IsColons (trees : List Tree) : Prop := ∃ region place, trees = double ':' ':' region place

/-- Pieces with a comma behind each, which the last one may lack. -/
inductive Separated : List (Tree × List Tree) → Prop
  | nil : Separated []
  | last {piece : Tree} : Separated [(piece, [])]
  | more {piece : Tree} {region : Option Region} {pieces : List (Tree × List Tree)}
      (hpieces : Separated pieces) : Separated ((piece, [single ',' region]) :: pieces)

/-- Pieces with what stands behind each. -/
def written (pieces : List (Tree × List Tree)) : List Tree :=
  pieces.flatMap fun entry => entry.1 :: entry.2

theorem tokensAll_written_last {piece : Tree} :
    Tree.tokensAll (written [(piece, [])]) = piece.tokens := by
  simp [written]

theorem tokensAll_written_more {piece : Tree} {region : Option Region}
    {pieces : List (Tree × List Tree)} :
    Tree.tokensAll (written ((piece, [single ',' region]) :: pieces)) =
      piece.tokens ++ ([.punct ',' false region] ++ Tree.tokensAll (written pieces)) := by
  simp [written, single, Tree.tokens]

/-- Segments of a path with the double colons in front of them. -/
def writtenSegments (segments : List (List Tree × Tree)) : List Tree :=
  segments.flatMap fun entry => entry.1 ++ [entry.2]

/-- The trees of a literal: a literal token, a truth value, or a negative number. -/
inductive IsLiteral : List Tree → Prop
  | token {text : String} {region : Option Region} : IsLiteral [.leaf (.literal text region)]
  | truth {word : String} {region : Option Region} (hword : word = "true" ∨ word = "false") :
    IsLiteral [.leaf (.word (.plain word) region)]
  | negative {text : String} {region place : Option Region}
      (hkind : Literal.kind text = .integer ∨ Literal.kind text = .float) :
    IsLiteral [single '-' region, .leaf (.literal text place)]

/-- An expression that is a name. -/
def nameExpression (ident : Located Ident) : Tree :=
  .node (.expression .path) [Tree.pathOfName ident]

/-- The length of an array: a literal token or a name. -/
inductive IsLength : Tree → Prop
  | literal {text : String} {region : Option Region} :
    IsLength (literalExpression [.leaf (.literal text region)])
  | name {ident : Located Ident} (hname : ident.value.isName = true) :
    IsLength (nameExpression ident)

/-- The default of a constant: a literal or a name. -/
inductive IsConstant : Tree → Prop
  | literal {leaves : List Tree} (hleaves : IsLiteral leaves) :
    IsConstant (literalExpression leaves)
  | name {ident : Located Ident} (hname : ident.value.isName = true) :
    IsConstant (nameExpression ident)

/-- Lifetimes that are introduced in front of a trait. -/
def introducedLifetimes (lifetimes : List (Tree × List Tree))
    (place opening closing : Option Region) : List Tree :=
  .leaf (.word (.plain "for") place) :: single '<' opening
    :: (written (lifetimes.map fun entry => (.node .phrase [entry.1], entry.2))
      ++ [single '>' closing])

/-- What may stand in front of a trait: nothing, a question mark, or lifetimes that are introduced.
-/
inductive IsModifier : List Tree → Prop
  | none : IsModifier []
  | optional {region : Option Region} : IsModifier [single '?' region]
  | binder {lifetimes : List (Tree × List Tree)} {place opening closing : Option Region}
      (hlifetimes : ∀ entry ∈ lifetimes, IsLifetime entry.1) (hcommas : Separated lifetimes) :
    IsModifier (introducedLifetimes lifetimes place opening closing)

/-! ## Forms -/

/-- The constructs that plain parts are made of. -/
inductive PlainSort where
  /-- A word of a path with its arguments. -/
  | segment
  | path
  | type
  /-- An argument in angle brackets that is not a lifetime. -/
  | argument
  /-- The arguments of a trait in parentheses with their result. -/
  | call
  | bound

/-- Code of the plain forms. -/
inductive IsPlain : PlainSort → Tree → Prop
  | word {ident : Located Ident} (hword : ident.value.IsSegment) :
    IsPlain .segment (.node .segment [Tree.name ident])
  | applied {ident : Located Ident} {colons : List Tree}
      {lifetimes arguments : List (Tree × List Tree)} {opening closing : Option Region}
      (hname : ident.value.isName = true ∨ ident.value = .plain "Self")
      (hcolons : colons = [] ∨ IsColons colons)
      (hlifetimes : ∀ entry ∈ lifetimes, IsLifetime entry.1)
      (harguments : ∀ entry ∈ arguments, IsPlain .argument entry.1)
      (hcommas : Separated (lifetimes ++ arguments)) :
    IsPlain .segment (.node .segment [Tree.name ident, .node .phrase (colons
      ++ (single '<' opening :: (written (lifetimes ++ arguments) ++ [single '>' closing])))])
  | path {root : List Tree} {first : Tree} {later : List (List Tree × Tree)}
      (hroot : root = [] ∨ IsColons root) (hfirst : IsPlain .segment first)
      (hcolons : ∀ entry ∈ later, IsColons entry.1)
      (hlater : ∀ entry ∈ later, IsPlain .segment entry.2) :
    IsPlain .path (.node .path (root ++ first :: writtenSegments later))
  | named {path : Tree} (hpath : IsPlain .path path) : IsPlain .type (.node .typePath [path])
  /-- A path that starts at a type. -/
  | inherent {type : Tree} {later : List (List Tree × Tree)} {opening closing : Option Region}
      (htype : IsPlain .type type) (hsome : later ≠ [])
      (hcolons : ∀ entry ∈ later, IsColons entry.1)
      (hlater : ∀ entry ∈ later, IsPlain .segment entry.2) :
    IsPlain .type (.node .typePath [.node .qualifiedPath (single '<' opening :: type
      :: single '>' closing :: writtenSegments later)])
  /-- A path that starts at what a type has for a trait. -/
  | associated {type trait : Tree} {later : List (List Tree × Tree)}
      {opening place closing : Option Region}
      (htype : IsPlain .type type) (htrait : IsPlain .path trait) (hsome : later ≠ [])
      (hcolons : ∀ entry ∈ later, IsColons entry.1)
      (hlater : ∀ entry ∈ later, IsPlain .segment entry.2) :
    IsPlain .type (.node .typePath [.node .qualifiedPath (single '<' opening :: type
      :: .leaf (.word (.plain "as") place) :: trait :: single '>' closing
      :: writtenSegments later)])
  | inferred {region : Option Region} :
    IsPlain .type (typeNode [.leaf (.word (.plain "_") region)])
  | never {region : Option Region} : IsPlain .type (typeNode [single '!' region])
  | reference {lifetime word : List Tree} {target : Tree} {region : Option Region}
      (hlifetime : lifetime = [] ∨ ∃ name, IsLifetime name ∧ lifetime = [name])
      (hword : word = [] ∨ ∃ place, word = [.leaf (.word (.plain "mut") place)])
      (htarget : IsPlain .type target) :
    IsPlain .type (typeNode ([single '&' region] ++ lifetime ++ word ++ [target]))
  | pointer {word : String} {target : Tree} {region place : Option Region}
      (hword : word = "const" ∨ word = "mut") (htarget : IsPlain .type target) :
    IsPlain .type (typeNode [single '*' region, .leaf (.word (.plain word) place), target])
  | slice {element : Tree} {opening closing : Option Region} (helement : IsPlain .type element) :
    IsPlain .type (typeNode [.group .bracket opening closing [element]])
  | array {element length : Tree} {opening region closing : Option Region}
      (helement : IsPlain .type element) (hlength : IsLength length) :
    IsPlain .type
      (typeNode [.group .bracket opening closing [element, single ';' region, length]])
  | tuple {elements : List (Tree × List Tree)} {opening closing : Option Region}
      (helements : ∀ entry ∈ elements, IsPlain .type entry.1) (hcommas : Separated elements) :
    IsPlain .type (typeNode [.group .parenthesis opening closing (written elements)])
  | type {type : Tree} (htype : IsPlain .type type) : IsPlain .argument type
  | literal {leaves : List Tree} (hleaves : IsLiteral leaves) :
    IsPlain .argument (literalExpression leaves)
  /-- The type that a trait has under a name. -/
  | equality {ident : Located Ident} {type : Tree} {region : Option Region}
      (hname : ident.value.isName = true) (htype : IsPlain .type type) :
    IsPlain .argument (.node .phrase [Tree.name ident, single '=' region, type])
  | inputs {inputs : List (Tree × List Tree)} {opening closing : Option Region}
      (hinputs : ∀ entry ∈ inputs, IsPlain .type entry.1) (hcommas : Separated inputs) :
    IsPlain .call (.node .phrase [.group .parenthesis opening closing (written inputs)])
  | output {inputs : List (Tree × List Tree)} {type : Tree}
      {opening closing region place : Option Region}
      (hinputs : ∀ entry ∈ inputs, IsPlain .type entry.1) (hcommas : Separated inputs)
      (htype : IsPlain .type type) :
    IsPlain .call (.node .phrase (.group .parenthesis opening closing (written inputs)
      :: (double '-' '>' region place ++ [type])))
  | outlives {lifetime : Tree} (hlifetime : IsLifetime lifetime) :
    IsPlain .bound (.node .phrase [lifetime])
  | trait {modifier : List Tree} {path : Tree} (hmodifier : IsModifier modifier)
      (hpath : IsPlain .path path) : IsPlain .bound (.node .phrase (modifier ++ [path]))
  | callable {modifier front : List Tree} {ident : Located Ident} {call : Tree}
      (hmodifier : IsModifier modifier)
      (hpath : IsPlain .path (.node .path (front ++ [.node .segment [Tree.name ident]])))
      (hcall : IsPlain .call call) :
    IsPlain .bound (.node .phrase
      (modifier ++ [.node .path (front ++ [.node .segment [Tree.name ident, call]])]))

/-- A path of one segment. -/
theorem IsPlain.ofSegment {segment : Tree} (h : IsPlain .segment segment) :
    IsPlain .path (.node .path [segment]) :=
  @IsPlain.path [] segment [] (.inl rfl) h nofun nofun

/-! ## How plain parts start -/

/-- How the tokens of a path start: with a word that may stand in one, or with a double colon. -/
inductive OpensPath : List TokenTree → Prop
  | word {ident : Ident} {region : Option Region} {others : List TokenTree}
      (hword : ident.IsSegment) (hbehind : Lookahead.operator "#" others = false) :
    OpensPath (.word ident region :: others)
  | root {region place : Option Region} {others : List TokenTree} :
    OpensPath (.punct ':' true region :: .punct ':' false place :: others)

/-- What the tokens of a type do not start with. -/
structure OpensType (tokens : List TokenTree) : Prop where
  some : tokens.isEmpty = false
  lifetime : Lookahead.lifetime tokens = false
  literal : Lookahead.literal tokens = false
  brace : Lookahead.group .brace tokens = false
  closing : Lookahead.operator ">" tokens = false
  optional : Lookahead.operator "?" tokens = false
  changeable : Lookahead.keyword "mut" tokens = false

theorem opensType_of_word {ident : Ident} {region : Option Region} {others : List TokenTree}
    (h : ident.IsSegment) : OpensType (.word ident region :: others) := by
  refine ⟨rfl, rfl, ?_, rfl, rfl, rfl, h.isWord "mut" rfl⟩
  rw [Lookahead.literal, h.isWord "true" rfl, h.isWord "false" rfl]
  rfl

theorem OpensPath.opensType {tokens : List TokenTree} (h : OpensPath tokens) :
    OpensType tokens := by
  cases h with
  | word hword => exact opensType_of_word hword
  | root => exact ⟨rfl, rfl, rfl, rfl, rfl, rfl, rfl⟩

theorem OpensPath.not_group {tokens : List TokenTree} (h : OpensPath tokens)
    (delimiter : Delimiter) : Lookahead.group delimiter tokens = false := by
  cases h <;> rfl

theorem OpensPath.not_angle {tokens : List TokenTree} (h : OpensPath tokens) :
    Lookahead.operator "<" tokens = false := by
  cases h <;> rfl

theorem OpensPath.not_builtin {tokens : List TokenTree} (h : OpensPath tokens) :
    builtinAhead tokens = false := by
  cases h with
  | word hword hbehind => simp [builtinAhead, Lookahead.skip, hbehind]
  | root => rfl

/-- A path starts with none of the words that a segment cannot be. -/
theorem OpensPath.not_keyword {tokens : List TokenTree} (h : OpensPath tokens) (word : String)
    (hword : moduleSegment [.word (.plain word) none] = false) :
    Lookahead.keyword word tokens = false := by
  cases h with
  | word hsegment => exact hsegment.isWord word hword
  | root => rfl

theorem OpensPath.ahead {tokens : List TokenTree} (h : OpensPath tokens) :
    (Lookahead.name tokens || Lookahead.pathKeyword tokens || Lookahead.operator "::" tokens
      || Lookahead.operator "<" tokens) = true := by
  cases h with
  | @word ident region others hword =>
    have hsegment : (Lookahead.name (.word ident region :: others)
      || Lookahead.pathKeyword (.word ident region :: others)) = true := hword
    rw [hsegment]
    rfl
  | root => simp [Lookahead.operator, Lookahead.operatorChars]

theorem isSegment_of_name {ident : Ident} (h : ident.isName = true ∨ ident = .plain "Self") :
    ident.IsSegment := by
  rcases h with hname | rfl
  · exact Ident.isSegment_of_isName hname
  · rfl

variable {tree : Tree} {rest : List TokenTree}

theorem IsPlain.opensSegment (h : IsPlain .segment tree)
    (hrest : Lookahead.operator "#" rest = false) : OpensPath (tree.tokens ++ rest) := by
  cases h with
  | word hword => exact .word hword hrest
  | applied hname hcolons =>
    rcases hcolons with rfl | ⟨region, place, rfl⟩
    · exact .word (isSegment_of_name hname) rfl
    · exact .word (isSegment_of_name hname) rfl

theorem tokens_path {root : List Tree} {first : Tree} {later : List (List Tree × Tree)} :
    (Tree.node .path (root ++ first :: writtenSegments later)).tokens =
      Tree.tokensAll root ++ (first.tokens ++ Tree.tokensAll (writtenSegments later)) := by
  simp [Tree.tokens]

theorem tokens_segments {entry : List Tree × Tree} {later : List (List Tree × Tree)} :
    Tree.tokensAll (writtenSegments (entry :: later)) =
      Tree.tokensAll entry.1 ++ entry.2.tokens ++ Tree.tokensAll (writtenSegments later) := by
  simp [writtenSegments]

theorem not_hash_of_segments {later : List (List Tree × Tree)}
    (hcolons : ∀ entry ∈ later, IsColons entry.1) (hrest : Lookahead.operator "#" rest = false) :
    Lookahead.operator "#" (Tree.tokensAll (writtenSegments later) ++ rest) = false := by
  cases later with
  | nil => exact hrest
  | cons entry later =>
    obtain ⟨region, place, hentry⟩ := hcolons entry List.mem_cons_self
    rw [tokens_segments, hentry]
    rfl

theorem IsPlain.opensPath (h : IsPlain .path tree)
    (hrest : Lookahead.operator "#" rest = false) : OpensPath (tree.tokens ++ rest) := by
  cases h with
  | path hroot hfirst hcolons hlater =>
    rw [tokens_path, List.append_assoc, List.append_assoc]
    rcases hroot with rfl | ⟨region, place, rfl⟩
    · exact hfirst.opensSegment (not_hash_of_segments hcolons hrest)
    · exact .root

theorem IsPlain.opensType (h : IsPlain .type tree)
    (hrest : Lookahead.operator "#" rest = false) : OpensType (tree.tokens ++ rest) := by
  cases h with
  | named hpath =>
    have hopens := (hpath.opensPath hrest).opensType
    simpa [Tree.tokens] using hopens
  | inherent | associated | inferred | never | reference | slice | array | tuple =>
    exact ⟨rfl, rfl, rfl, rfl, rfl, rfl, rfl⟩
  | pointer hword => exact ⟨rfl, rfl, rfl, rfl, rfl, rfl, rfl⟩

end Grammar

end Counterpart
