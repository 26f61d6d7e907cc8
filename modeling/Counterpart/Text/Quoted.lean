import Counterpart.Text.VisibleCharacter

/-!
# Quoted text

A quoted text shows visible characters as they are. A quote, a backslash and the usual
control characters have short escapes, everything else that leaves no mark of its own is
written by its number in hexadecimal.
-/

namespace Counterpart.Text

/-- The escape of a character by its number. -/
def numericEscape (character : Char) : List Char :=
  '\\' :: 'u' :: '\x7b' :: (Nat.toDigits 16 character.toNat ++ ['\x7d'])

/-- How one character is written between double quotes. -/
def quotedCharacter (character : Char) : List Char :=
  if character = '\x00' then ['\\', '0']
  else if character = '\t' then ['\\', 't']
  else if character = '\r' then ['\\', 'r']
  else if character = '\n' then ['\\', 'n']
  else if character = '\\' then ['\\', '\\']
  else if character = '"' then ['\\', '"']
  else if isCombining character || !isVisible character then numericEscape character
  else [character]

/-- The text between double quotes, for a reader. -/
def quoted (text : String) : String :=
  String.ofList ('"' :: (text.toList.flatMap quotedCharacter ++ ['"']))

/-- The characters of a string literal. A zero before an octal digit is written in full, since
the short escape would seem to go on. -/
def literalCharacters : List Char → List Char
  | [] => []
  | '\x00' :: rest =>
    let octal := rest.head?.any fun next => '0' ≤ next ∧ next ≤ '7'
    (if octal then ['\\', 'x', '0', '0'] else ['\\', '0']) ++ literalCharacters rest
  | character :: rest => quotedCharacter character ++ literalCharacters rest

/-- The string literal that denotes a text. -/
def stringLiteral (text : String) : String :=
  String.ofList ('"' :: (literalCharacters text.toList ++ ['"']))

end Counterpart.Text
