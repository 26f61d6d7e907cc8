import Counterpart.Grammar.Fault
import Counterpart.Tree.Basic
import Counterpart.Token.Literal

/-!
# Parsers

A parser reads from a list of token trees and either answers with a value and what remains or
fails with a fault. Punctuation that a rule recognises as one operator is normalised: its
characters are joint with each other and the last one stands alone. Loops carry the number of
remaining trees as fuel, since every round consumes at least one.
-/

namespace Counterpart

/-- A place in the code. Tokens that a group has left over are only complained about when all else
could be read, so the first such complaint is kept. -/
structure Cursor where
  /-- What remains to be read. -/
  rest : List TokenTree
  /-- The delimiter behind it, if there is one. -/
  closing : Option Region
  /-- The first complaint about tokens left over in a group. -/
  unread : Option Fault
deriving Repr, Inhabited

/-- The start of code that is not in a group. -/
def Cursor.ofTokens (tokens : List TokenTree) : Cursor := ⟨tokens, none, none⟩

/-- A reader of token trees. -/
abbrev Parser (α : Type) := StateT Cursor (Except Fault) α

namespace Lookahead

/-! ## Looking ahead -/

/-- What follows the first token; a lifetime counts as one. -/
def skip : List TokenTree → List TokenTree
  | .punct '\'' _ _ :: .word _ _ :: rest => rest
  | _ :: rest => rest
  | [] => []

/-- Whether an operator stands ahead, read as a part of a longer one if need be. -/
def operatorChars : List Char → List TokenTree → Bool
  | [], _ => true
  | [last], .punct character _ _ :: _ => character == last
  | wanted :: more, .punct character joint _ :: rest =>
    character == wanted && joint && operatorChars more rest
  | _ :: _, _ => false

/-- Whether the given operator stands ahead. -/
def operator (text : String) (tokens : List TokenTree) : Bool :=
  operatorChars text.toList tokens

/-- Whether the given keyword stands ahead. -/
def keyword (word : String) (tokens : List TokenTree) : Bool :=
  tokens.head?.any (·.isWord word)

/-- Whether one of several keywords stands ahead. -/
def keywords (words : List String) (tokens : List TokenTree) : Bool :=
  words.any (keyword · tokens)

/-- Whether a word stands ahead that can name something. -/
def name (tokens : List TokenTree) : Bool :=
  (tokens.head?.bind TokenTree.ident?).any Ident.isName

/-- Whether any word stands ahead. -/
def word (tokens : List TokenTree) : Bool :=
  (tokens.head?.bind TokenTree.ident?).isSome

/-- Whether a lifetime stands ahead. -/
def lifetime : List TokenTree → Bool
  | .punct '\'' _ _ :: .word _ _ :: _ => true
  | _ => false

/-- Whether a group between the given delimiters stands ahead. -/
def group (delimiter : Delimiter) (tokens : List TokenTree) : Bool :=
  tokens.head?.any (·.isGroup delimiter)

/-- Whether a literal stands ahead: a literal token, a truth value, or a negative number. -/
def literal : List TokenTree → Bool
  | .literal _ _ :: _ => true
  | .word ident _ :: _ => ident.isWord "true" || ident.isWord "false"
  | .punct '-' _ _ :: .literal text _ :: _ =>
    Literal.kind text == .integer || Literal.kind text == .float
  | _ => false

/-- Whether a number of the given kind stands ahead, with or without a sign. -/
def number (kind : LiteralKind) : List TokenTree → Bool
  | .literal text _ :: _ => Literal.kind text == kind
  | .punct '-' _ _ :: .literal text _ :: _ => Literal.kind text == kind
  | _ => false

/-- Whether a string literal stands ahead. -/
def string : List TokenTree → Bool
  | .literal text _ :: _ => Literal.kind text == .string
  | _ => false

/-- Whether a path segment that is a keyword stands ahead. -/
def pathKeyword (tokens : List TokenTree) : Bool :=
  keywords ["super", "self", "Self", "crate"] tokens

end Lookahead

namespace Parser

/-! ## Single tokens -/

/-- The region of the next token; a group is pointed at by its opening delimiter. -/
def placeOf (cursor : Cursor) : Option Region :=
  match cursor.rest with
  | [] => cursor.closing
  | .group _ opening _ _ :: _ => opening
  | tree :: _ => tree.region

/-- Fail at the next token. -/
def failWith {α : Type} (complaint : Complaint) : Parser α := fun cursor =>
  .error ⟨complaint, cursor.rest.isEmpty, placeOf cursor⟩

/-- Fail on code that was read. -/
def failOn {α : Type} (trees : List Tree) (complaint : Complaint) : Parser α := fun _ =>
  .error ⟨complaint, false, Tree.regionAll trees⟩

/-- Fail at the next token, wanting nothing in particular. A group is pointed at as a whole. -/
def wantingNothing {α : Type} : Parser α := fun cursor =>
  let place : Option Region :=
    match cursor.rest with
    | [] => cursor.closing
    | tree :: _ => tree.region
  .error ⟨.wanted [], cursor.rest.isEmpty, place⟩

/-- Fail at the next token, wanting one of the given pieces. -/
def wanting {α : Type} (pieces : List String) : Parser α := failWith (.wanted pieces)

/-- Fail at the next token, wanting one of the given keywords or pieces. A keyword that does stand
there is not named: what is missing then stands behind it. -/
def wantingKeywords {α : Type} (words : List String) (pieces : List String) : Parser α :=
  fun cursor =>
    let missing := words.filter (!Lookahead.keyword · cursor.rest)
    wanting (missing.map (fun word => "`" ++ word ++ "`") ++ pieces) cursor

/-- What remains to be read. -/
def ahead : Parser (List TokenTree) := fun cursor => .ok (cursor.rest, cursor)

/-- Whether what remains passes a test. -/
def looking (test : List TokenTree → Bool) : Parser Bool := fun cursor =>
  .ok (test cursor.rest, cursor)

/-- Whether nothing remains. -/
def atEnd : Parser Bool := looking List.isEmpty

/-- The characters of an operator, joint with each other; none if it does not stand ahead. -/
def operatorLeaves? : List Char → List TokenTree → Option (List Tree × List TokenTree)
  | [], rest => some ([], rest)
  | [last], .punct character _ region :: rest =>
    if character = last ∧ last ≠ '\'' then some ([.leaf (.punct character false region)], rest)
    else none
  | wanted :: more, .punct character joint region :: rest =>
    if character = wanted ∧ joint ∧ wanted ≠ '\'' then
      (operatorLeaves? more rest).map fun (leaves, remaining) =>
        (.leaf (.punct character true region) :: leaves, remaining)
    else none
  | _ :: _, _ => none

/-- Read an operator. -/
def operator (text : String) : Parser (List Tree) := fun cursor =>
  match operatorLeaves? text.toList cursor.rest with
  | some (leaves, rest) => .ok (leaves, { cursor with rest })
  | none => .error ⟨.wanted ["`" ++ text ++ "`"], false, placeOf cursor⟩

/-- Read an operator if it stands ahead. -/
def operator? (text : String) : Parser (List Tree) := do
  if ← looking (Lookahead.operator text) then operator text else pure []

/-- Read a keyword. -/
def keyword (word : String) : Parser (List Tree) := fun cursor =>
  match cursor.rest with
  | tree :: rest =>
    if tree.isWord word then .ok ([.leaf tree], { cursor with rest })
    else failWith (.wanted ["`" ++ word ++ "`"]) cursor
  | [] => failWith (.wanted ["`" ++ word ++ "`"]) cursor

/-- Read a keyword if it stands ahead. -/
def keyword? (word : String) : Parser (List Tree) := do
  if ← looking (Lookahead.keyword word) then keyword word else pure []

/-- Read a word that can name something. -/
def name : Parser (Located Ident) := fun cursor =>
  match cursor.rest with
  | .word ident region :: rest =>
    if ident.isName then .ok (⟨ident, region⟩, { cursor with rest })
    else failWith (.keyword ident.text) cursor
  | _ => failWith (.wanted ["identifier"]) cursor

/-- Read any word. -/
def anyWord : Parser (Located Ident) := fun cursor =>
  match cursor.rest with
  | .word ident region :: rest => .ok (⟨ident, region⟩, { cursor with rest })
  | _ => failWith (.wanted ["ident"]) cursor

/-- Read a name as a leaf. -/
def nameLeaf : Parser Tree := Tree.name <$> name

/-- Read a lifetime. -/
def lifetime : Parser Tree := fun cursor =>
  match cursor.rest with
  | .punct '\'' joint region :: .word ident place :: rest =>
    .ok (.node .lifetime [.leaf (.punct '\'' joint region), .leaf (.word ident place)],
      { cursor with rest })
  | _ => failWith (.wanted ["lifetime"]) cursor

/-- Read a lifetime if one stands ahead. -/
def lifetime? : Parser (List Tree) := do
  if ← looking Lookahead.lifetime then return [← lifetime] else pure []

/-- Read a literal. -/
def literal : Parser (List Tree) := fun cursor =>
  if Lookahead.literal cursor.rest then
    match cursor.rest with
    | .punct character _ region :: token :: rest =>
      .ok ([.leaf (.punct character false region), .leaf token], { cursor with rest })
    | token :: rest => .ok ([.leaf token], { cursor with rest })
    | [] => failWith (.wanted ["literal"]) cursor
  else failWith (.wanted ["literal"]) cursor

/-- Read any single token tree. -/
def anyTree : Parser Tree := fun cursor =>
  match cursor.rest with
  | tree :: rest => .ok (.leaf tree, { cursor with rest })
  | [] => failWith (.wanted ["token tree"]) cursor

/-! ## Groups -/

/-- How a missing group is called. -/
def delimiterName : Delimiter → String
  | .parenthesis => "parentheses"
  | .bracket => "square brackets"
  | .brace => "curly braces"

/-- The first complaint about tokens left over, at the end of a group with the given delimiter or of
the code. -/
def unreadAt (scope : Option Delimiter) (cursor : Cursor) : Option Fault :=
  cursor.unread <|> cursor.rest.head?.map fun tree => ⟨.leftover scope, false, tree.region⟩

/-- Run a parser on tokens of their own, which it must use up. -/
def runAll {α : Type} (parser : Parser α) (tokens : List TokenTree) : Except Fault α :=
  match parser (.ofTokens tokens) with
  | .error fault => .error fault
  | .ok (value, cursor) =>
    match unreadAt none cursor with
    | none => .ok value
    | some fault => .error fault

/-- Read a group whose content the given parser uses up; the answer has the regions of the
delimiters. -/
def inside {α : Type} (delimiter : Delimiter) (parser : Parser α) :
    Parser (α × Option Region × Option Region) := fun cursor =>
  match cursor.rest with
  | .group found opening closing content :: rest =>
    if found = delimiter then
      match parser ⟨content, closing, cursor.unread⟩ with
      | .ok (value, inner) =>
        .ok ((value, opening, closing),
          { cursor with rest, unread := unreadAt (some delimiter) inner })
      | .error fault => .error fault
    else failWith (.wanted [delimiterName delimiter]) cursor
  | _ => failWith (.wanted [delimiterName delimiter]) cursor

/-- Read a group as a tree. -/
def groupOf (delimiter : Delimiter) (parser : Parser (List Tree)) : Parser Tree := do
  let (content, opening, closing) ← inside delimiter parser
  pure (.group delimiter opening closing content)

/-- Read a group without looking into it. -/
def anyGroup : Parser Tree := fun cursor =>
  match cursor.rest with
  | .group delimiter opening closing content :: rest =>
    .ok (.leaf (.group delimiter opening closing content), { cursor with rest })
  | _ => failWith (.rule "expected delimiter") cursor

/-! ## Loops -/

/-- Read pieces as long as what remains passes a test; `fuel` bounds their number. -/
def whilst (fuel : Nat) (test : List TokenTree → Bool) (parser : Parser (List Tree)) :
    Parser (List Tree) :=
  match fuel with
  | 0 => pure []
  | fuel + 1 => do
    if ← looking test then
      let first ← parser
      let rest ← whilst fuel test parser
      pure (first ++ rest)
    else pure []

/-- Read pieces as long as what remains passes a test. -/
def many (test : List TokenTree → Bool) (parser : Parser (List Tree)) : Parser (List Tree) := do
  let tokens ← ahead
  whilst (tokens.length + 1) test parser

/-- Read values between separators until what remains passes a test. The answer tells whether a
separator stands behind the last value; `fuel` bounds their number. -/
def separatedValues {α : Type} (fuel : Nat) (stop : List TokenTree → Bool) (separator : String)
    (parser : Parser α) : Parser (List α × Bool) :=
  match fuel with
  | 0 => pure ([], false)
  | fuel + 1 => do
    if ← looking stop then return ([], true)
    let first ← parser
    if ← looking stop then return ([first], false)
    let _ ← operator separator
    let (rest, trailing) ← separatedValues fuel stop separator parser
    pure (first :: rest, trailing)

/-- Read values between commas until the end. -/
def listOf {α : Type} (parser : Parser α) : Parser (List α × Bool) := do
  let tokens ← ahead
  separatedValues (tokens.length + 1) List.isEmpty "," parser

/-- Read pieces and the separators between them until what remains passes a test; `fuel` bounds
their number. -/
def separatedLoop (fuel : Nat) (stop : List TokenTree → Bool) (separator : String)
    (parser : Parser (List Tree)) : Parser (List Tree) :=
  match fuel with
  | 0 => pure []
  | fuel + 1 => do
    if ← looking stop then return []
    let first ← parser
    if ← looking stop then return first
    let mark ← operator separator
    let rest ← separatedLoop fuel stop separator parser
    pure (first ++ mark ++ rest)

/-- Read pieces and the separators between them until what remains passes a test. -/
def separatedUntil (stop : List TokenTree → Bool) (separator : String)
    (parser : Parser (List Tree)) : Parser (List Tree) := do
  let tokens ← ahead
  separatedLoop (tokens.length + 1) stop separator parser

/-- Read pieces and the commas between them until the end. -/
def commaList (parser : Parser (List Tree)) : Parser (List Tree) :=
  separatedUntil List.isEmpty "," parser

/-- Read pieces with plus signs between them; a sign may stand behind the last piece, before
anything that passes the test. `fuel` bounds their number. -/
def sumLoop (fuel : Nat) (stop : List TokenTree → Bool) (parser : Parser (List Tree)) :
    Parser (List Tree) :=
  match fuel with
  | 0 => pure []
  | fuel + 1 => do
    if ← looking stop then return []
    let first ← parser
    if ← looking (Lookahead.operator "+") then
      let plus ← operator "+"
      let rest ← sumLoop fuel stop parser
      pure (first ++ plus ++ rest)
    else pure first

/-- Read pieces with plus signs between them. -/
def sumUntil (stop : List TokenTree → Bool) (parser : Parser (List Tree)) :
    Parser (List Tree) := do
  let tokens ← ahead
  sumLoop (tokens.length + 1) stop parser

/-! ## Looking further -/

/-- What a parser would read here, and what would remain behind it. -/
def peeking {α : Type} (parser : Parser α) : Parser (α × List TokenTree) := fun cursor =>
  match parser cursor with
  | .ok (value, after) => .ok ((value, after.rest), cursor)
  | .error fault => .error fault

/-- Whether a parser would succeed here. -/
def succeeds {α : Type} (parser : Parser α) : Parser Bool := fun cursor =>
  match parser cursor with
  | .ok _ => .ok (true, cursor)
  | .error _ => .ok (false, cursor)

/-- Run a parser and give the tokens that it read, as they were written. -/
def tokensOf {α : Type} (parser : Parser α) : Parser (α × List TokenTree) := fun cursor =>
  match parser cursor with
  | .error fault => .error fault
  | .ok (value, after) =>
    .ok ((value, cursor.rest.take (cursor.rest.length - after.rest.length)), after)

/-- The tokens read since an earlier point, as they were written. -/
def tokensSince (start : List TokenTree) : Parser (List Tree) := fun cursor =>
  .ok (Tree.opaqueTokens (start.take (start.length - cursor.rest.length)), cursor)

end Parser

end Counterpart
