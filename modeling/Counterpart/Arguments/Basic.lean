import Counterpart.Diagnostic
import Counterpart.Grammar.Reading
import Counterpart.Text.Similarity

/-!
# Named arguments of attributes

An argument list is read in order. Every name may be given once; a literal, an unknown name and a
repeated name are rejected where they stand, and reading goes on behind them. A name counts as
given even if its value was no good.
-/

namespace Counterpart

/-- A value, or everything that is wrong with the code it should come from. -/
abbrev Checked (α : Type) := Except (List Diagnostic) α

namespace Checked

/-- Fail with a single diagnostic. -/
def fail {α : Type} (cause : Cause) (region : Option Region) : Checked α :=
  .error [⟨cause, region⟩]

/-- What is wrong, if anything is. -/
def diagnostics {α : Type} : Checked α → List Diagnostic
  | .ok _ => []
  | .error diagnostics => diagnostics

/-- Put a value in front of others, or gather what is wrong with either, in order. -/
def append {α : Type} : Checked α → Checked (List α) → Checked (List α)
  | .ok value, .ok values => .ok (value :: values)
  | .ok _, .error later => .error later
  | .error found, rest => .error (found ++ rest.diagnostics)

/-- All values, or everything that is wrong with any of them, in order. -/
def all {α : Type} : List (Checked α) → Checked (List α)
  | [] => .ok []
  | first :: rest => append first (all rest)

/-- Gathering loses no diagnostic. -/
theorem diagnostics_append {α : Type} (first : Checked α) (rest : Checked (List α)) :
    (append first rest).diagnostics = first.diagnostics ++ rest.diagnostics := by
  cases first <;> cases rest <;> simp [append, diagnostics]

/-- Exactly what is wrong with the parts is wrong with the whole. -/
theorem diagnostics_all {α : Type} (parts : List (Checked α)) :
    (all parts).diagnostics = parts.flatMap diagnostics := by
  induction parts with
  | nil => rfl
  | cons first rest ih => simp [all, diagnostics_append, ih]

end Checked

/-- What an argument list has to offer: its items, or what is wrong with a part of it. -/
abbrev Offer := Checked MetaEntry

namespace Offer

/-- The entries of an argument list. -/
def ofTokens (tokens : List TokenTree) : List Offer :=
  match Grammar.read Grammar.metaList tokens with
  | .ok entries => entries.map .ok
  | .error fault => [.error [.ofFault fault]]

/-- The items with known names, each name at its first place; all else is rejected. `seen` holds
the names given before. -/
def sift (known : List String) : (seen : List String) → List Offer → List (Checked MetaItem)
  | _, [] => []
  | seen, .error found :: rest => .error found :: sift known seen rest
  | seen, .ok (.literal tokens) :: rest =>
    Checked.fail (.unexpectedForm "literal") (Tree.regionAll tokens) :: sift known seen rest
  | seen, .ok (.item item) :: rest =>
    let name := item.path.text
    if !known.contains name then
      Checked.fail (.unknownArgument name (Text.nearest? name known)) item.region
        :: sift known seen rest
    else if seen.contains name then
      Checked.fail (.repeatedArgument name) item.region :: sift known seen rest
    else .ok item :: sift known (name :: seen) rest

end Offer

namespace MetaItem

/-- How the kind of an expression is called. -/
def valueKind (value : Tree) : String :=
  match value with
  | .node (.expression kind) parts =>
    match kind with
    | .array => "array"
    | .assign => "assign"
    | .asyncBlock => "async"
    | .await => "await"
    | .binary _ => "binary"
    | .block => "block"
    | .breakJump => "break"
    | .call => "call"
    | .cast => "cast"
    | .closure => "closure"
    | .constBlock => "const"
    | .continueJump => "continue"
    | .field => "field"
    | .forLoop => "for_loop"
    | .ifElse => "if"
    | .index => "index"
    | .infer => "infer"
    | .letCondition => "let"
    | .literal => literalKind parts
    | .loop => "loop"
    | .macroCall => "macro"
    | .matchArms => "match"
    | .methodCall => "method_call"
    | .paren => "paren"
    | .path => "path"
    | .range => "range"
    | .rawAddress => "unknown"
    | .reference => "reference"
    | .repeatArray => "repeat"
    | .returnJump => "return"
    | .structLiteral => "struct"
    | .tryBlock => "try_block"
    | .tryOperator => "try"
    | .tuple => "tuple"
    | .unary => "unary"
    | .unsafeBlock => "unsafe"
    | .verbatim => "verbatim"
    | .whileLoop => "while"
    | .yieldJump => "yield"
  | _ => "unknown"
where
  /-- How the kind of a literal is called; the sign of a number does not matter. -/
  literalKind (parts : List Tree) : String :=
    match (Tree.tokensAll parts).getLast? with
    | some (.literal text _) =>
      match Literal.kind text with
      | .string => "string"
      | .byteString => "byte string"
      | .terminatedString => "unknown"
      | .byte => "byte"
      | .character => "char"
      | .integer => "int"
      | .float => "float"
      | .unreadable => "verbatim"
    | _ => "bool"

/-- Reject a value for its kind. -/
def rejectValue {α : Type} (value : Tree) : Checked α :=
  Checked.fail (.unexpectedValue (valueKind value)) value.region

/-- Reject a string for its content. -/
def rejectContent {α : Type} (content : String) (value : Tree) : Checked α :=
  Checked.fail (.unknownValue content) value.region

/-- The single token of a literal that is not a number with a sign. -/
def literalToken? : Tree → Option TokenTree
  | .node (.expression .literal) [.leaf token] => some token
  | _ => none

/-- The content of a string literal. -/
def stringContent? (value : Tree) : Option String :=
  match literalToken? value with
  | some (.literal text _) => Literal.stringValue? text
  | _ => none

/-- The tokens that a string literal spells, all with the region of the literal. There are none if
the content is no code or if the literal has a suffix. -/
def codeInString? (value : Tree) : Option (List TokenTree) :=
  match literalToken? value with
  | some (.literal text region) =>
    if Literal.hasSuffix text then none
    else
      (Literal.stringValue? text).bind fun content =>
        (TokenTree.ofSource? content).map (TokenTree.locateAll region)
  | _ => none

/-- The value of an argument that has to have one. An argument list in its place must at least be
one. -/
def expectValue (item : MetaItem) : Checked Tree :=
  match item.arguments with
  | .word => Checked.fail (.unexpectedForm "word") item.region
  | .value _ value => .ok value
  | .list _ _ _ content => do
    let _ ← Checked.all (Offer.ofTokens content)
    Checked.fail (.unexpectedForm "list") item.region

end MetaItem

end Counterpart
