import Counterpart.Token.Basic
import Counterpart.Text.IdentifierCharacter
import Counterpart.Text.Quoted

/-!
# From source text to tokens

The lexer works on the list of remaining characters. A scanner answers what remains behind the
longest piece it recognises, or nothing. Comments vanish, except that a documentation comment
stands for an attribute. A text is refused if a delimiter has no partner or if no token
begins at some character.
-/

namespace Counterpart.Lexer

open Counterpart.Text

/-- What remains behind a recognised piece. -/
abbrev Scanner := List Char → Option (List Char)

/-- The characters that make up operators. -/
def punctuation : List Char := "~!@#$%^&*-=+|;:,<.>/?'".toList

/-- Whether a character separates tokens: white space and the two direction marks. -/
def isBlank (character : Char) : Bool :=
  let code := character.toNat
  (9 ≤ code && code ≤ 13) || code == 0x20 || code == 0x85 || code == 0xA0 || code == 0x1680
    || (0x2000 ≤ code && code ≤ 0x200A) || code == 0x200E || code == 0x200F || code == 0x2028
    || code == 0x2029 || code == 0x202F || code == 0x205F || code == 0x3000

/-- Whether a character is a hexadecimal digit. -/
def isHexDigit (character : Char) : Bool :=
  character.isDigit || ('a' ≤ character && character ≤ 'f') || ('A' ≤ character && character ≤ 'F')

/-- The value of a hexadecimal digit. -/
def hexValue (character : Char) : Nat :=
  if character.isDigit then character.toNat - 48
  else if 'a' ≤ character then character.toNat - 87
  else character.toNat - 55

/-- What remains behind a fixed text. -/
def exactly : List Char → Scanner
  | [], rest => some rest
  | _ :: _, [] => none
  | wanted :: more, character :: rest => if character = wanted then exactly more rest else none

/-- Whether the characters begin with a fixed text. -/
def beginsWith (text : String) (characters : List Char) : Bool :=
  (exactly text.toList characters).isSome

/-! ## Comments -/

/-- The rest of the line and what remains from its line break on. -/
def untilLineBreak : List Char → List Char × List Char
  | [] => ([], [])
  | '\n' :: rest => ([], '\n' :: rest)
  | '\r' :: '\n' :: rest => ([], '\n' :: rest)
  | character :: rest =>
    let (line, remaining) := untilLineBreak rest
    (character :: line, remaining)

/-- What remains behind a block comment; comments nest, and `depth` of them are open. -/
def blockComment : Nat → Scanner
  | _, [] => none
  | _, [_] => none
  | depth, '/' :: '*' :: rest => blockComment (depth + 1) rest
  | depth, '*' :: '/' :: rest => if depth ≤ 1 then some rest else blockComment (depth - 1) rest
  | depth, _ :: rest => blockComment depth rest

/-- What remains behind an ordinary comment at the start of the text. -/
def ordinaryComment (characters : List Char) : Option (List Char) :=
  if beginsWith "//" characters
      && (!beginsWith "///" characters || beginsWith "////" characters)
      && !beginsWith "//!" characters then
    some (untilLineBreak characters).2
  else if beginsWith "/**/" characters then some (characters.drop 4)
  else if beginsWith "/*" characters
      && (!beginsWith "/**" characters || beginsWith "/***" characters)
      && !beginsWith "/*!" characters then
    blockComment 0 characters
  else none

/-- What remains behind blanks and ordinary comments; `fuel` bounds their number. -/
def skipBlanks : (fuel : Nat) → List Char → List Char
  | 0, characters => characters
  | fuel + 1, characters =>
    match ordinaryComment characters with
    | some rest => skipBlanks fuel rest
    | none =>
      match characters with
      | character :: rest => if isBlank character then skipBlanks fuel rest else characters
      | [] => []

/-- Whether every carriage return is part of a line break. -/
def hasNoBareReturn : List Char → Bool
  | [] => true
  | '\r' :: '\n' :: rest => hasNoBareReturn rest
  | '\r' :: _ => false
  | _ :: rest => hasNoBareReturn rest

/-- The content of a block comment, given the text from its start and what remains behind. -/
def blockContent (characters rest : List Char) : List Char :=
  (characters.take (characters.length - rest.length - 2)).drop 3

/-- A documentation comment at the start of the text: its content, whether it documents what
surrounds it, and what remains. -/
def documentation? (characters : List Char) : Option (List Char × Bool × List Char) := do
  let found ←
    if beginsWith "//!" characters then
      let (line, rest) := untilLineBreak (characters.drop 3)
      some (line, true, rest)
    else if beginsWith "/*!" characters then
      let rest ← blockComment 0 characters
      some (blockContent characters rest, true, rest)
    else if beginsWith "///" characters then
      if beginsWith "////" characters then none
      else
        let (line, rest) := untilLineBreak (characters.drop 3)
        some (line, false, rest)
    else if beginsWith "/**" characters && !beginsWith "/***" characters then
      let rest ← blockComment 0 characters
      some (blockContent characters rest, false, rest)
    else none
  if hasNoBareReturn found.1 then some found else none

/-- The attribute that a documentation comment stands for. -/
def documentationTokens (content : List Char) (inner : Bool) (place : Region) : List TokenTree :=
  let bang := if inner then [TokenTree.punct '!' false place] else []
  let text := stringLiteral (String.ofList content)
  .punct '#' false place :: (bang ++
    [.group .bracket place place
      [.word (.plain "doc") place, .punct '=' false place, .literal text place]])

/-! ## Words -/

/-- What remains behind a word without a raw mark. -/
def wordRest : Scanner
  | [] => none
  | first :: rest => if isWordStart first then some (rest.dropWhile isWordContinue) else none

/-- A word, raw or not, and what remains. -/
def word? (characters : List Char) : Option (Ident × List Char) := do
  let isRaw := beginsWith "r#" characters
  let body := if isRaw then characters.drop 2 else characters
  let rest ← wordRest body
  let name := String.ofList (body.take (body.length - rest.length))
  if isRaw && ["_", "super", "self", "Self", "crate"].contains name then none
  else some (⟨name, isRaw⟩, rest)

/-! ## Literals -/

/-- What remains behind the suffix that a literal may carry. -/
def suffixRest (characters : List Char) : List Char := (wordRest characters).getD characters

/-- What remains behind the digits and the closing brace of a numeric escape, and its number. -/
def bracedNumber : (length number : Nat) → List Char → Option (Nat × List Char)
  | _, _, [] => none
  | length, number, character :: rest =>
    if isHexDigit character then
      if length = 6 then none else bracedNumber (length + 1) (number * 16 + hexValue character) rest
    else if character = '_' ∧ 0 < length then bracedNumber length number rest
    else if character = '\x7d' ∧ 0 < length ∧ number.isValidChar then some (number, rest)
    else none

/-- The kinds of quoted literals. -/
inductive QuoteKind where
  /-- Text of any characters. -/
  | text
  /-- ASCII text standing for bytes. -/
  | bytes
  /-- Text without a zero. -/
  | terminated
deriving DecidableEq

/-- What remains behind an escape, given the text behind its backslash. -/
def escapeRest (kind : QuoteKind) : Scanner
  | 'x' :: high :: low :: rest =>
    let allowed : Bool :=
      match kind with
      | .text => '0' ≤ high && high ≤ '7' && isHexDigit low
      | .bytes => isHexDigit high && isHexDigit low
      | .terminated => isHexDigit high && isHexDigit low && !(high == '0' && low == '0')
    if allowed then some rest else none
  | 'u' :: '\x7b' :: rest =>
    match kind, bracedNumber 0 0 rest with
    | .bytes, _ => none
    | _, none => none
    | .text, some (_, remaining) => some remaining
    | .terminated, some (number, remaining) => if number = 0 then none else some remaining
  | '0' :: rest => if kind = .terminated then none else some rest
  | character :: rest =>
    if ['n', 'r', 't', '\\', '\'', '"'].contains character then some rest else none
  | [] => none

/-- What remains behind the blanks that follow a backslash at the end of a line. The line break
itself has been read, and `wantsFeed` says whether it was a carriage return. -/
def continuationRest : (wantsFeed : Bool) → Scanner
  | true, '\n' :: rest => continuationRest false rest
  | true, _ => none
  | false, [] => none
  | false, character :: rest =>
    if character = '\r' then continuationRest true rest
    else if [' ', '\t', '\n'].contains character then continuationRest false rest
    else some (character :: rest)

/-- What remains behind the closing quote of a text with escapes; `fuel` bounds its length. -/
def cookedRest (kind : QuoteKind) : (fuel : Nat) → Scanner
  | 0, _ => none
  | _ + 1, [] => none
  | fuel + 1, character :: rest =>
    if character = '"' then some (suffixRest rest)
    else if character = '\r' then
      match rest with
      | '\n' :: more => cookedRest kind fuel more
      | _ => none
    else if character = '\\' then
      match rest with
      | '\n' :: more => (continuationRest false more).bind (cookedRest kind fuel)
      | '\r' :: more => (continuationRest true more).bind (cookedRest kind fuel)
      | _ => (escapeRest kind rest).bind (cookedRest kind fuel)
    else if kind = .bytes ∧ character.val ≥ 0x80 then none
    else if kind = .terminated ∧ character = '\x00' then none
    else cookedRest kind fuel rest

/-- What remains behind a raw text whose closing quote is followed by `hashes` hash marks. -/
def rawRest (kind : QuoteKind) (hashes : List Char) : Scanner
  | [] => none
  | '\r' :: '\n' :: rest => rawRest kind hashes rest
  | character :: rest =>
    if character = '"' then
      match exactly hashes rest with
      | some remaining => some (suffixRest remaining)
      | none => rawRest kind hashes rest
    else if character = '\r' then none
    else if kind = .bytes ∧ character.val ≥ 0x80 then none
    else if kind = .terminated ∧ character = '\x00' then none
    else rawRest kind hashes rest

/-- What remains behind a raw text, from its hash marks on. -/
def rawTextRest (kind : QuoteKind) (characters : List Char) : Option (List Char) :=
  let hashes := characters.takeWhile (· == '#')
  match characters.drop hashes.length with
  | '"' :: rest => if hashes.length > 255 then none else rawRest kind hashes rest
  | _ => none

/-- What remains behind a quoted literal. -/
def quotedRest (characters : List Char) : Option (List Char) :=
  let fuel := characters.length + 1
  match characters with
  | '"' :: rest => cookedRest .text fuel rest
  | 'r' :: rest => rawTextRest .text rest
  | 'b' :: '"' :: rest => cookedRest .bytes fuel rest
  | 'b' :: 'r' :: rest => rawTextRest .bytes rest
  | 'c' :: '"' :: rest => cookedRest .terminated fuel rest
  | 'c' :: 'r' :: rest => rawTextRest .terminated rest
  | _ => none

/-- What remains behind the closing quote of a character literal, given the text behind its
opening quote. -/
def singleRest (kind : QuoteKind) (characters : List Char) : Option (List Char) := do
  let rest ←
    match characters with
    | '\\' :: escape => escapeRest kind escape
    | character :: rest => if kind = .bytes ∧ character.val ≥ 0x80 then none else some rest
    | [] => none
  match rest with
  | '\'' :: remaining => some (suffixRest remaining)
  | _ => none

/-- What remains behind a byte or character literal. -/
def characterRest : Scanner
  | 'b' :: '\'' :: rest => singleRest .bytes rest
  | '\'' :: rest => singleRest .text rest
  | _ => none

/-- What remains behind a number, which a word character must not touch. -/
def wordBreak (characters : List Char) : Option (List Char) :=
  let rest := suffixRest characters
  if rest.head?.any isWordContinue then none else some rest

/-- The exponent of a number: what remains behind it, if it has a digit. -/
def exponentRest (characters : List Char) : Option (List Char) :=
  let digits (text : List Char) : Option (List Char) :=
    let run := text.takeWhile fun c => c.isDigit || c == '_'
    if run.any Char.isDigit then some (text.drop run.length) else none
  match characters.dropWhile (· == '_') with
  | sign :: rest => if sign = '+' ∨ sign = '-' then digits rest else digits characters
  | [] => none

/-- What remains behind the digits, point and exponent of a number that has one of the latter. -/
def floatDigits (characters : List Char) : Option (List Char) :=
  let isPart (c : Char) : Bool := c.isDigit || c == '_'
  let whole := characters.takeWhile isPart
  if !(characters.head?.any Char.isDigit) then none
  else
    match characters.drop whole.length with
    | '.' :: rest =>
      if rest.head?.any fun next => next == '.' || isWordStart next then none
      else
        let fraction := rest.takeWhile isPart
        match rest.drop fraction.length with
        | mark :: more =>
          if mark = 'e' ∨ mark = 'E' then
            some ((exponentRest more).getD (rest.drop fraction.length))
          else some (rest.drop fraction.length)
        | [] => some []
    | mark :: more => if mark = 'e' ∨ mark = 'E' then exponentRest more else none
    | [] => none

/-- The digits of a whole number in a base: what remains, and whether there was a digit. -/
def baseDigits (base : Nat) : (found : Bool) → List Char → Option (Bool × List Char)
  | found, [] => some (found, [])
  | found, character :: rest =>
    if character.isDigit then
      if hexValue character ≥ base then none else baseDigits base true rest
    else if character = '_' then
      if !found && base == 10 then none else baseDigits base found rest
    else if isHexDigit character then
      if hexValue character ≥ base then some (found, character :: rest)
      else baseDigits base true rest
    else some (found, character :: rest)

/-- What remains behind the digits of a whole number. -/
def integerDigits (characters : List Char) : Option (List Char) := do
  let (base, digits) :=
    match characters with
    | '0' :: 'x' :: rest => (16, rest)
    | '0' :: 'o' :: rest => (8, rest)
    | '0' :: 'b' :: rest => (2, rest)
    | _ => (10, characters)
  let (found, rest) ← baseDigits base false digits
  if found then some rest else none

/-- What remains behind a number. -/
def numberRest (characters : List Char) : Option (List Char) :=
  ((floatDigits characters).bind wordBreak).orElse fun _ =>
    (integerDigits characters).bind wordBreak

/-- The mark in place of a literal that could not be read. -/
def unreadableMark : String := "(/*ERROR*/)"

/-- What remains behind a literal. -/
def literalRest (characters : List Char) : Option (List Char) :=
  (((quotedRest characters).orElse fun _ => characterRest characters).orElse fun _ =>
    numberRest characters).orElse fun _ => exactly unreadableMark.toList characters

/-! ## Single tokens -/

/-- Whether a punctuation character stands at the start; a comment does not count. -/
def punctuationAt (characters : List Char) : Bool :=
  !beginsWith "//" characters && !beginsWith "/*" characters
    && characters.head?.any punctuation.contains

/-- A punctuation character, whether it is joint, and what remains. A quote is only taken as the
mark of a lifetime. -/
def punct? (characters : List Char) : Option (Char × Bool × List Char) :=
  if !punctuationAt characters then none
  else
    match characters with
    | [] => none
    | '\'' :: rest => do
      let (ident, behind) ← word? rest
      if behind.head? == some '\'' || behind.head? == some '#' && !ident.isRaw then none
      else some ('\'', true, rest)
    | character :: rest => some (character, punctuationAt rest, rest)

/-- The beginnings of literals that a word must not be cut from. -/
def literalBeginnings : List String :=
  ["r\"", "r#\"", "r##", "b\"", "b'", "br\"", "br#", "c\"", "cr\"", "cr#"]

/-- The token at the start of the text, without its region, and what remains. -/
def token? (characters : List Char) :
    Option ((Option Region → TokenTree) × List Char) :=
  match literalRest characters with
  | some rest =>
    let text := String.ofList (characters.take (characters.length - rest.length))
    some (.literal text, rest)
  | none =>
    match punct? characters with
    | some (character, joint, rest) => some (.punct character joint, rest)
    | none =>
      if literalBeginnings.any (beginsWith · characters) then none
      else (word? characters).map fun (ident, rest) => (.word ident, rest)

/-- The group that the first character opens. -/
def opening? (characters : List Char) : Option Delimiter :=
  match characters with
  | '(' :: _ => if beginsWith unreadableMark characters then none else some .parenthesis
  | '[' :: _ => some .bracket
  | '\x7b' :: _ => some .brace
  | _ => none

/-- The group that a character closes. -/
def closing? : Char → Option Delimiter
  | ')' => some .parenthesis
  | ']' => some .bracket
  | '\x7d' => some .brace
  | _ => none

/-! ## Sequences -/

/-- What has been read up to some place: the trees, the remaining characters and the place. -/
structure Reading where
  trees : List TokenTree
  rest : List Char
  place : Position

/-- Put trees in front of a reading. -/
def Reading.cons (trees : List TokenTree) (reading : Reading) : Reading :=
  { reading with trees := trees ++ reading.trees }

/-- The trees up to the end of the text or the next unmatched closing delimiter, which is not
consumed. Every step consumes a character, so the length of the text is enough fuel. -/
def sequence? : (fuel : Nat) → List Char → Position → Option Reading
  | 0, _, _ => none
  | fuel + 1, characters, start =>
    let text := skipBlanks (characters.length + 1) characters
    let place := start.afterAll (characters.take (characters.length - text.length))
    match documentation? text with
    | some (content, inner, rest) => do
      let stop := place.afterAll (text.take (text.length - rest.length))
      let following ← sequence? fuel rest stop
      some (following.cons (documentationTokens content inner ⟨place, stop⟩))
    | none =>
      match text with
      | [] => some ⟨[], [], place⟩
      | character :: behind =>
        match opening? text, closing? character with
        | some delimiter, _ => do
          let inside := place.after character
          let content ← sequence? fuel behind inside
          match content.rest with
          | [] => none
          | close :: remaining =>
            if closing? close = some delimiter then
              let stop := content.place.after close
              let tree := TokenTree.group delimiter (some ⟨place, inside⟩)
                (some ⟨content.place, stop⟩) content.trees
              let following ← sequence? fuel remaining stop
              some (following.cons [tree])
            else none
        | none, some _ => some ⟨[], text, place⟩
        | none, none => do
          let (make, rest) ← token? text
          let stop := place.afterAll (text.take (text.length - rest.length))
          let following ← sequence? fuel rest stop
          some (following.cons [make (some ⟨place, stop⟩)])

end Lexer

/-- The tokens of a source text, unless it is no sequence of balanced tokens. A byte order mark at
the start is skipped. -/
def TokenTree.ofSource? (source : String) : Option (List TokenTree) := do
  let characters := source.toList
  let mark := characters.takeWhile (· == '\ufeff') |>.take 1
  let body := characters.drop mark.length
  let reading ← Lexer.sequence? (body.length + 1) body (Position.origin.afterAll mark)
  if reading.rest.isEmpty then some reading.trees else none

end Counterpart
