import Counterpart.Proofs.MacroArguments

/-!
# The grammar of format texts

A format text is a row of pieces: text without braces, doubled braces, and placeholders with an
argument and perhaps a specification. The scan for captured names does not know the pieces. It goes
on behind the second of two opening braces, at the colon of a specification or at a closing brace,
and looks only for the next opening brace. At every boundary between two pieces it is nevertheless
outside of braces, so it finds exactly the arguments that are names, however the pieces adjoin.
-/

namespace Counterpart

namespace Text

/-! ## Pieces -/

/-- Text without braces. -/
def IsBraceFree (characters : List Char) : Prop :=
  ∀ character ∈ characters, character ≠ '\x7b' ∧ character ≠ '\x7d'

/-- White space, or nothing. -/
def IsBlank (characters : List Char) : Prop := ∀ character ∈ characters, isWhite character = true

/-- A name: a letter or an underscore, then letters, digits and underscores of the basic alphabet. A
lone underscore is none. -/
structure IsFormatName (characters : List Char) : Prop where
  first : ∃ first rest, characters = first :: rest ∧ (first.isAlpha = true ∨ first = '_')
  all : ∀ character ∈ characters, character.isAlphanum = true ∨ character = '_'
  notUnderscore : characters ≠ ['_']

/-- What a placeholder shows. -/
inductive FormatArgument where
  /-- The next of the values. -/
  | next
  /-- The value in a place. -/
  | place (digits : List Char) (nonempty : digits ≠ [])
      (areDigits : ∀ character ∈ digits, character.isDigit = true)
  /-- The value of a name, which is captured. -/
  | name (characters : List Char) (isName : IsFormatName characters)

namespace FormatArgument

/-- The argument as it is written. -/
def characters : FormatArgument → List Char
  | next => []
  | place digits _ _ => digits
  | name characters _ => characters

/-- The name that is captured. -/
def captured : FormatArgument → List String
  | name characters _ => [String.ofList characters]
  | _ => []

end FormatArgument

/-- A placeholder: an argument between blanks, and perhaps how it is to be shown. -/
structure Placeholder where
  before : List Char
  argument : FormatArgument
  behind : List Char
  specification : Option (List Char)
  before_isBlank : IsBlank before
  behind_isBlank : IsBlank behind
  specification_isBraceFree : ∀ shown ∈ specification, IsBraceFree shown

namespace Placeholder

/-- The argument and the blanks around it. -/
def inner (placeholder : Placeholder) : List Char :=
  placeholder.before ++ (placeholder.argument.characters ++ placeholder.behind)

/-- What stands behind the argument, up to the closing brace. -/
def tail (placeholder : Placeholder) : List Char :=
  match placeholder.specification with
  | none => ['\x7d']
  | some shown => ':' :: (shown ++ ['\x7d'])

end Placeholder

/-- A piece of a format text. -/
inductive FormatPiece where
  | plain (characters : List Char) (isBraceFree : IsBraceFree characters)
  /-- Two opening braces, which stand for one. -/
  | openingBrace
  /-- Two closing braces, which stand for one. -/
  | closingBrace
  | placeholder (shown : Placeholder)

namespace FormatPiece

/-- The piece as it is written. -/
def characters : FormatPiece → List Char
  | plain characters _ => characters
  | openingBrace => ['\x7b', '\x7b']
  | closingBrace => ['\x7d', '\x7d']
  | .placeholder shown => '\x7b' :: (shown.inner ++ shown.tail)

/-- The name that a piece captures. -/
def captured : FormatPiece → List String
  | .placeholder shown => shown.argument.captured
  | _ => []

/-- The text that pieces make up in their order. -/
def text (pieces : List FormatPiece) : String := String.ofList (pieces.flatMap characters)

end FormatPiece

/-! ## Characters -/

/-- A character that ends no part of a placeholder. -/
def IsInner (character : Char) : Prop :=
  character ≠ '\x7b' ∧ character ≠ '\x7d' ∧ character ≠ ':'

theorem isInner_of_isWhite {character : Char} (h : isWhite character = true) :
    IsInner character := by
  refine ⟨?_, ?_, ?_⟩ <;> rintro rfl <;> cases h

/-- The characters of names and numbers, by their codes. -/
theorem code_of_isAlphanum {character : Char} (h : character.isAlphanum = true) :
    65 ≤ character.toNat ∧ character.toNat ≤ 90 ∨ 97 ≤ character.toNat ∧ character.toNat ≤ 122 ∨
      48 ≤ character.toNat ∧ character.toNat ≤ 57 := by
  simp only [Char.isAlphanum, Char.isAlpha, Char.isUpper, Char.isLower, Char.isDigit,
    Bool.or_eq_true, Bool.and_eq_true, decide_eq_true_eq, UInt32.le_iff_toNat_le, ge_iff_le] at h
  change ((65 ≤ character.toNat ∧ character.toNat ≤ 90) ∨ _) ∨ _ at h
  exact or_assoc.mp h

theorem isWhite_eq_false_of_isAlphanum {character : Char} (h : character.isAlphanum = true) :
    isWhite character = false := by
  have hcode := code_of_isAlphanum h
  simp only [isWhite, Bool.or_eq_false_iff, Bool.and_eq_false_iff, decide_eq_false_iff_not,
    beq_eq_false_iff_ne]
  omega

theorem isInner_of_isAlphanum {character : Char} (h : character.isAlphanum = true) :
    IsInner character := by
  refine ⟨?_, ?_, ?_⟩ <;> rintro rfl <;> cases h

/-- No name begins with a digit. -/
theorem isPlainName_eq_false_of_isDigit {first : Char} (h : first.isDigit = true)
    (rest : List Char) : isPlainName (first :: rest) = false := by
  have hcode : 48 ≤ first.toNat ∧ first.toNat ≤ 57 := by
    simpa [Char.isDigit, UInt32.le_iff_toNat_le] using h
  have halpha : first.isAlpha = false := by
    rw [← Bool.not_eq_true, Char.isAlpha, Char.isUpper, Char.isLower]
    simp only [Bool.or_eq_true, Bool.and_eq_true, decide_eq_true_eq, UInt32.le_iff_toNat_le,
      ge_iff_le]
    change ¬ (65 ≤ first.toNat ∧ first.toNat ≤ 90 ∨ 97 ≤ first.toNat ∧ first.toNat ≤ 122)
    omega
  have hunderscore : (first == '_') = false := by
    rw [beq_eq_false_iff_ne]
    rintro rfl
    cases h
  rw [isPlainName, halpha, hunderscore]
  rfl

namespace FormatArgument

/-- The characters of an argument are letters, digits and underscores. -/
theorem isWord (argument : FormatArgument) :
    ∀ character ∈ argument.characters, character.isAlphanum = true ∨ character = '_' := by
  cases argument with
  | next => exact nofun
  | place digits _ hdigits =>
    intro character hcharacter
    refine .inl ?_
    rw [Char.isAlphanum, hdigits character hcharacter, Bool.or_true]
  | name characters hname => exact hname.all

theorem isWhite_eq_false (argument : FormatArgument) :
    ∀ character ∈ argument.characters, isWhite character = false := by
  intro character hcharacter
  rcases argument.isWord character hcharacter with hword | rfl
  · exact isWhite_eq_false_of_isAlphanum hword
  · rfl

theorem isInner (argument : FormatArgument) :
    ∀ character ∈ argument.characters, IsInner character := by
  intro character hcharacter
  rcases argument.isWord character hcharacter with hword | rfl
  · exact isInner_of_isAlphanum hword
  · refine ⟨?_, ?_, ?_⟩ <;> decide

end FormatArgument

theorem Placeholder.isInner (placeholder : Placeholder) :
    ∀ character ∈ placeholder.inner, IsInner character := by
  intro character hcharacter
  rcases List.mem_append.mp hcharacter with hbefore | hcharacter
  · exact isInner_of_isWhite (placeholder.before_isBlank character hbefore)
  · rcases List.mem_append.mp hcharacter with hargument | hbehind
    · exact placeholder.argument.isInner character hargument
    · exact isInner_of_isWhite (placeholder.behind_isBlank character hbehind)

/-! ## The name between blanks -/

/-- Characters that are no blanks are not dropped. -/
theorem dropWhile_isWhite_eq_self {characters : List Char}
    (h : ∀ character ∈ characters, isWhite character = false) :
    characters.dropWhile isWhite = characters := by
  cases characters with
  | nil => rfl
  | cons first rest => exact List.dropWhile_cons_of_neg (by simp [h first List.mem_cons_self])

/-- Blanks around characters that are none are taken away. -/
theorem trim_between {before characters behind : List Char} (hbefore : IsBlank before)
    (hcharacters : ∀ character ∈ characters, isWhite character = false) (hbehind : IsBlank behind) :
    trim (before ++ (characters ++ behind)) = characters := by
  have hreversed : IsBlank behind.reverse := fun character hmem =>
    hbehind character (List.mem_reverse.mp hmem)
  have hstart : ((before ++ (characters ++ behind)).dropWhile isWhite).reverse.dropWhile isWhite =
      characters.reverse := by
    rw [List.dropWhile_append_of_pos hbefore]
    cases characters with
    | nil =>
      rw [List.nil_append, ← List.append_nil behind, List.dropWhile_append_of_pos hbehind]
      rfl
    | cons first rest =>
      have hfirst : ((first :: rest) ++ behind).dropWhile isWhite = (first :: rest) ++ behind :=
        List.dropWhile_cons_of_neg (by simp [hcharacters first List.mem_cons_self])
      rw [hfirst, List.reverse_append, List.dropWhile_append_of_pos hreversed]
      exact dropWhile_isWhite_eq_self fun character hmem =>
        hcharacters character (List.mem_reverse.mp hmem)
  rw [trim, hstart, List.reverse_reverse]

theorem IsFormatName.isPlainName {characters : List Char} (h : IsFormatName characters) :
    isPlainName characters = true := by
  obtain ⟨first, rest, rfl, hfirst⟩ := h.first
  have hrest : ∀ character ∈ rest, character.isAlphanum = true ∨ character = '_' :=
    fun character hmem => h.all character (List.mem_cons_of_mem _ hmem)
  have hlong : ¬ (first = '_' ∧ rest = []) := by
    rintro ⟨rfl, rfl⟩
    exact h.notUnderscore rfl
  simpa [Text.isPlainName, hfirst] using ⟨by tauto, hrest⟩

/-- Of the arguments, exactly the names are spelled like names. -/
theorem FormatArgument.captured_eq (argument : FormatArgument) :
    (if isPlainName argument.characters then [String.ofList argument.characters] else []) =
      argument.captured := by
  cases argument with
  | next => rfl
  | place digits hnonempty hdigits =>
    obtain ⟨first, rest, rfl⟩ := List.exists_cons_of_ne_nil hnonempty
    rw [characters, isPlainName_eq_false_of_isDigit (hdigits first List.mem_cons_self)]
    rfl
  | name characters hname =>
    rw [FormatArgument.characters, if_pos hname.isPlainName]
    rfl

theorem Placeholder.capturedName_inner (placeholder : Placeholder) :
    capturedName placeholder.inner.reverse = placeholder.argument.captured := by
  have htrim : trim placeholder.inner = placeholder.argument.characters :=
    trim_between placeholder.before_isBlank placeholder.argument.isWhite_eq_false
      placeholder.behind_isBlank
  rw [capturedName, List.reverse_reverse, htrim]
  exact placeholder.argument.captured_eq

/-! ## The scan -/

/-- Nothing is captured where no brace opens. -/
theorem capturesFrom_outside {characters : List Char} (h : '\x7b' ∉ characters)
    (rest : List Char) :
    capturesFrom .outside (characters ++ rest) = capturesFrom .outside rest := by
  induction characters with
  | nil => rfl
  | cons character later ih =>
    rw [List.mem_cons, not_or] at h
    rw [List.cons_append, capturesFrom, if_neg (Ne.symm h.1)]
    exact ih h.2

/-- A name that has begun ends at the first colon or closing brace. -/
theorem capturesFrom_inside {characters : List Char}
    (h : ∀ character ∈ characters, IsInner character) {stop : Char}
    (hstop : stop = '\x7d' ∨ stop = ':') (name rest : List Char) :
    capturesFrom (.inside name) (characters ++ stop :: rest) =
      capturedName (characters.reverse ++ name) ++ capturesFrom .outside rest := by
  induction characters generalizing name with
  | nil => rw [List.nil_append, capturesFrom, if_pos hstop, List.reverse_nil, List.nil_append]
  | cons character later ih =>
    obtain ⟨⟨-, hclosing, hcolon⟩, hlater⟩ := List.forall_mem_cons.mp h
    rw [List.cons_append, capturesFrom, if_neg (not_or.mpr ⟨hclosing, hcolon⟩), ih hlater,
      List.reverse_cons, List.append_assoc]
    rfl

/-- What stands behind an opening brace, up to the first colon or closing brace, is captured if it
is a name. -/
theorem capturesFrom_opened {characters : List Char}
    (h : ∀ character ∈ characters, IsInner character) {stop : Char}
    (hstop : stop = '\x7d' ∨ stop = ':') (rest : List Char) :
    capturesFrom .opened (characters ++ stop :: rest) =
      capturedName characters.reverse ++ capturesFrom .outside rest := by
  cases characters with
  | nil =>
    rw [List.nil_append, capturesFrom, if_pos (.inr hstop)]
    rfl
  | cons character later =>
    obtain ⟨⟨hopening, hclosing, hcolon⟩, hlater⟩ := List.forall_mem_cons.mp h
    have hinner := not_or.mpr ⟨hopening, not_or.mpr ⟨hclosing, hcolon⟩⟩
    rw [List.cons_append, capturesFrom, if_neg hinner, capturesFrom_inside hlater hstop,
      List.reverse_cons]

/-- Behind a piece the scan is outside of braces again, and it has found what the piece captures. -/
theorem capturesFrom_piece (piece : FormatPiece) (rest : List Char) :
    capturesFrom .outside (piece.characters ++ rest) =
      piece.captured ++ capturesFrom .outside rest := by
  cases piece with
  | plain characters hfree =>
    exact capturesFrom_outside (fun hmem => (hfree _ hmem).1 rfl) rest
  | openingBrace => rfl
  | closingBrace => exact capturesFrom_outside (by decide) rest
  | placeholder shown =>
    have hopened (stop : Char) (hstop : stop = '\x7d' ∨ stop = ':') (later : List Char) :
        capturesFrom .outside ('\x7b' :: (shown.inner ++ stop :: later)) =
          shown.argument.captured ++ capturesFrom .outside later := by
      rw [capturesFrom, if_pos rfl, capturesFrom_opened shown.isInner hstop,
        shown.capturedName_inner]
    rw [FormatPiece.characters, List.cons_append, List.append_assoc, Placeholder.tail]
    cases hspecification : shown.specification with
    | none => exact hopened _ (.inl rfl) rest
    | some written =>
      have hfree : '\x7b' ∉ written ++ ['\x7d'] := by
        have hwritten := shown.specification_isBraceFree written hspecification
        simpa using fun hmem => (hwritten _ hmem).1 rfl
      exact (hopened ':' (.inr rfl) _).trans (congrArg _ (capturesFrom_outside hfree rest))

/-- The names that a format text captures are those of its pieces. -/
theorem captures_text (pieces : List FormatPiece) :
    captures (FormatPiece.text pieces) = pieces.flatMap FormatPiece.captured := by
  rw [captures, FormatPiece.text, String.toList_ofList]
  induction pieces with
  | nil => rfl
  | cons piece rest ih => rw [List.flatMap_cons, capturesFrom_piece, ih, List.flatMap_cons]

end Text

/-! ## Format texts in macro calls -/

open Text in
/-- A literal that denotes a format text captures the names of its pieces, in their order, however
the pieces adjoin. As the only argument of a macro call that is a default it has the errors about
these names, in the same order, and no others. -/
theorem format_text_captures {literal : String} (hkind : Literal.kind literal = .string)
    (pieces : List FormatPiece)
    (hvalue : Literal.stringValue? literal = some (FormatPiece.text pieces)) :
    Occurrence.captured literal = (pieces.flatMap FormatPiece.captured).map .plain ∧
    ∀ (parameters : List Parameter) (current : Parameter) (segments : List Tree)
      (place : Option Region) (delimiter : Delimiter) (opening closing region : Option Region),
      Parameter.referenceDiagnosticsOf parameters
          { current with fallback := some (.node (.expression .macroCall) [.node .macroCall
            [.node .path segments, .leaf (.punct '!' false place),
              .leaf (.group delimiter opening closing [.literal literal region])]]) } =
        (pieces.flatMap FormatPiece.captured).filterMap fun name =>
          Parameter.judge parameters current ⟨.plain name, region, false⟩ := by
  have hcaptured : Occurrence.captured literal =
      (pieces.flatMap FormatPiece.captured).map .plain := by
    rw [Occurrence.captured, if_pos hkind, hvalue, Option.map_some, captures_text]
    rfl
  refine ⟨hcaptured, fun parameters current segments place delimiter opening closing region => ?_⟩
  have hfound : Occurrence.ofExpression (.node (.expression .macroCall) [.node .macroCall
      [.node .path segments, .leaf (.punct '!' false place),
        .leaf (.group delimiter opening closing [.literal literal region])]]) =
      (pieces.flatMap FormatPiece.captured).map fun name => ⟨.plain name, region, false⟩ := by
    rw [Occurrence.ofExpression_macroCall]
    simp [Occurrence.inArguments, Occurrence.inTokens, Occurrence.labels, Occurrence.within,
      hcaptured]
  show (Occurrence.ofExpression _).filterMap _ = _
  rw [hfound, List.filterMap_map]
  rfl

namespace Sample

open Text

/-- The name of one letter. -/
def letterName (letter : Char) (h : letter.isAlpha = true) : FormatArgument :=
  .name [letter]
    { first := ⟨letter, [], rfl, .inl h⟩
      all := by simp [Char.isAlphanum, h]
      notUnderscore := by rintro ⟨⟩; cases h }

/-- A placeholder for the value of a name, shown in the given way. -/
def showing (argument : FormatArgument) (specification : Option (List Char))
    (h : ∀ shown ∈ specification, IsBraceFree shown) : FormatPiece :=
  .placeholder ⟨[], argument, [], specification, nofun, nofun, h⟩

/-- Pieces whose braces adjoin. -/
def adjoining : List FormatPiece :=
  [.openingBrace, showing (letterName 'c' rfl) none nofun, .closingBrace,
    showing (letterName 'a' rfl) none nofun, .closingBrace, .openingBrace,
    showing (letterName 'b' rfl) (some ['>', '8']) (by simp [IsBraceFree])]

/-- The text of these pieces as a literal. -/
def adjoiningLiteral : String :=
  "\"\x7b\x7b\x7bc\x7d\x7d\x7d\x7ba\x7d\x7d\x7d\x7b\x7b\x7bb:>8\x7d\""

end Sample

/-- Between adjoining braces, the names of the placeholders are captured. -/
theorem captured_adjoining :
    Literal.kind Sample.adjoiningLiteral = .string ∧
    Literal.stringValue? Sample.adjoiningLiteral = some (Text.FormatPiece.text Sample.adjoining) ∧
    Occurrence.captured Sample.adjoiningLiteral = [.plain "c", .plain "a", .plain "b"] := by
  have hkind : Literal.kind Sample.adjoiningLiteral = .string := by decide +kernel
  have hvalue : Literal.stringValue? Sample.adjoiningLiteral =
      some (Text.FormatPiece.text Sample.adjoining) := by
    decide +kernel
  exact ⟨hkind, hvalue, (format_text_captures hkind Sample.adjoining hvalue).1⟩

end Counterpart
