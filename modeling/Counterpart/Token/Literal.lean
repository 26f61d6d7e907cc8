import Counterpart.Token.Lexer

/-!
# What literals mean

The kind of a literal shows in its first characters. The value of a string literal is the
text between its quotes with every escape resolved; the value of an index is a whole number
without a suffix.
-/

namespace Counterpart

/-- The kinds of literals. -/
inductive LiteralKind where
  | string
  | byteString
  | terminatedString
  | byte
  | character
  | integer
  | float
  /-- The mark in place of a literal that could not be read. -/
  | unreadable
deriving DecidableEq, Repr, Inhabited

namespace Literal

open Lexer

/-- Whether the text behind an exponent mark makes the number a fraction: it has a sign, or
digits that end the number or are followed by a suffix. -/
def hasExponent : (found : Bool) → List Char → Bool
  | found, [] => found
  | found, character :: rest =>
    if character = '_' then hasExponent found rest
    else if character = '+' ∨ character = '-' then true
    else if character.isDigit then hasExponent true rest
    else found

/-- Whether a number is written without a point or an exponent. -/
def isWhole (characters : List Char) : Bool :=
  match characters with
  | '0' :: 'x' :: _ => true
  | '0' :: 'o' :: _ => true
  | '0' :: 'b' :: _ => true
  | _ =>
    match characters.dropWhile fun c => c.isDigit || c == '_' with
    | '.' :: _ => false
    | mark :: rest => !((mark == 'e' || mark == 'E') && hasExponent false rest)
    | [] => true

/-- The kind of the literal with the given text. -/
def kind (text : String) : LiteralKind :=
  match text.toList with
  | '"' :: _ => .string
  | 'r' :: _ => .string
  | 'b' :: '\'' :: _ => .byte
  | 'b' :: _ => .byteString
  | 'c' :: _ => .terminatedString
  | '\'' :: _ => .character
  | '(' :: _ => .unreadable
  | characters => if isWhole characters then .integer else .float

/-- The text up to the closing quote with escapes resolved; `fuel` bounds its length. -/
def unescape : (fuel : Nat) → List Char → List Char
  | 0, _ => []
  | _ + 1, [] => []
  | fuel + 1, character :: rest =>
    if character = '"' then []
    else if character = '\r' then '\n' :: unescape fuel (rest.drop 1)
    else if character = '\\' then
      match rest with
      | 'x' :: high :: low :: more =>
        Char.ofNat (hexValue high * 16 + hexValue low) :: unescape fuel more
      | 'u' :: '\x7b' :: more =>
        match bracedNumber 0 0 more with
        | some (number, remaining) => Char.ofNat number :: unescape fuel remaining
        | none => []
      | 'n' :: more => '\n' :: unescape fuel more
      | 'r' :: more => '\r' :: unescape fuel more
      | 't' :: more => '\t' :: unescape fuel more
      | '0' :: more => '\x00' :: unescape fuel more
      | '\n' :: more =>
        unescape fuel (more.dropWhile fun c => c == ' ' || c == '\t' || c == '\n' || c == '\r')
      | '\r' :: more =>
        unescape fuel (more.dropWhile fun c => c == ' ' || c == '\t' || c == '\n' || c == '\r')
      | other :: more => other :: unescape fuel more
      | [] => []
    else character :: unescape fuel rest

/-- The text up to a quote that is followed by the given hash marks. -/
def rawContent (hashes : List Char) : List Char → List Char
  | [] => []
  | character :: rest =>
    if character = '"' ∧ (exactly hashes rest).isSome then []
    else character :: rawContent hashes rest

/-- The value of a string literal. -/
def stringValue? (text : String) : Option String :=
  match text.toList with
  | '"' :: rest => some (String.ofList (unescape (rest.length + 1) rest))
  | 'r' :: rest =>
    let hashes := rest.takeWhile (· == '#')
    some (String.ofList (rawContent hashes (rest.drop (hashes.length + 1))))
  | _ => none

/-- Whether a word follows the closing quote of a string literal. -/
def hasSuffix (text : String) : Bool :=
  text.toList.getLast?.any fun character => character != '"' && character != '#'

/-- The number that digits write in a base; underscores between them do not count. -/
def digitsValue (base : Nat) (digits : List Char) : Nat :=
  (digits.filter (· != '_')).foldl (fun value digit => value * base + hexValue digit) 0

/-- The number that a whole literal without a suffix writes. -/
def index? (text : String) : Option Nat :=
  let characters := text.toList
  let (base, digits) :=
    match characters with
    | '0' :: 'x' :: rest => (16, rest)
    | '0' :: 'o' :: rest => (8, rest)
    | '0' :: 'b' :: rest => (2, rest)
    | _ => (10, characters)
  if digits.any (fun c => c.isDigit || isHexDigit c)
      && digits.all fun c => c == '_' || isHexDigit c && hexValue c < base then
    some (digitsValue base digits)
  else none

end Literal

end Counterpart
