import Counterpart.Source.Region

/-!
# Tokens

Code is a list of token trees: words, single punctuation characters, literals, and groups
between matching delimiters. An operator of several characters is a run of punctuation in
which all but the last are joint.
-/

namespace Counterpart

/-- A word of the language. A raw word is written with a leading `r#` and is never a keyword. -/
structure Ident where
  name : String
  isRaw : Bool
deriving DecidableEq, Repr, Inhabited

namespace Ident

/-- The word without a raw mark. -/
def plain (name : String) : Ident := ⟨name, false⟩

/-- The word as it is written in code. -/
def text (ident : Ident) : String :=
  if ident.isRaw then "r#" ++ ident.name else ident.name

/-- Whether this is the given word, not written as a raw one. -/
def isWord (ident : Ident) (word : String) : Bool :=
  !ident.isRaw && ident.name == word

/-- The words that the grammar keeps for itself. -/
def keywords : List String :=
  ["_", "abstract", "as", "async", "await", "become", "box", "break", "const", "continue",
   "crate", "do", "dyn", "else", "enum", "extern", "false", "final", "fn", "for", "if", "impl",
   "in", "let", "loop", "macro", "match", "mod", "move", "mut", "override", "priv", "pub",
   "ref", "return", "Self", "self", "static", "struct", "super", "trait", "true", "try", "type",
   "typeof", "unsafe", "unsized", "use", "virtual", "where", "while", "yield"]

/-- Whether the word can name something. -/
def isName (ident : Ident) : Bool :=
  ident.isRaw || !keywords.contains ident.name

/-- Only the exact plain word passes the test for it. -/
theorem isWord_iff (ident : Ident) (word : String) :
    ident.isWord word = true ↔ ident = plain word := by
  cases ident with
  | mk name isRaw => cases isRaw <;> simp [isWord, plain]

end Ident

/-- The bracket pairs that group tokens. -/
inductive Delimiter where
  | parenthesis
  | bracket
  | brace
deriving DecidableEq, Repr, Inhabited

/-- A piece of code: a single token or a delimited group. -/
inductive TokenTree where
  /-- A word. -/
  | word (ident : Ident) (region : Option Region)
  /-- One punctuation character; a joint one belongs together with the next. -/
  | punct (character : Char) (joint : Bool) (region : Option Region)
  /-- A literal as written. -/
  | literal (text : String) (region : Option Region)
  /-- Code between matching delimiters, with the regions of the two. -/
  | group (delimiter : Delimiter) (opening closing : Option Region) (content : List TokenTree)
deriving Repr, Inhabited

namespace TokenTree

/-- The region from the first to the last character of the tree. -/
def region : TokenTree → Option Region
  | .word _ region => region
  | .punct _ _ region => region
  | .literal _ region => region
  | .group _ opening closing _ => Region.spanning opening closing

/-- The region from the first to the last of several trees. -/
def regionAll (trees : List TokenTree) : Option Region :=
  Region.spanning (trees.head?.bind region) (trees.getLast?.bind region)

/-- The word that the tree is, if it is one. -/
def ident? : TokenTree → Option Ident
  | .word ident _ => some ident
  | _ => none

/-- Whether the tree is the given word. -/
def isWord (tree : TokenTree) (wanted : String) : Bool :=
  match tree with
  | .word ident _ => ident.isWord wanted
  | _ => false

/-- Whether the tree is the given punctuation character, whatever follows it. -/
def isPunct (tree : TokenTree) (wanted : Char) : Bool :=
  match tree with
  | .punct character _ _ => character == wanted
  | _ => false

/-- Whether the tree is a group between the given delimiters. -/
def isGroup (tree : TokenTree) (wanted : Delimiter) : Bool :=
  match tree with
  | .group delimiter _ _ _ => delimiter == wanted
  | _ => false

mutual

/-- The number of single tokens, a delimiter counting as one. -/
def size : TokenTree → Nat
  | .group _ _ _ content => sizeAll content + 2
  | _ => 1

/-- The number of single tokens of several trees. -/
def sizeAll : List TokenTree → Nat
  | [] => 0
  | tree :: rest => size tree + sizeAll rest

end

mutual

/-- Give every token of the tree one region. -/
def locate (place : Option Region) : TokenTree → TokenTree
  | .word ident _ => .word ident place
  | .punct character joint _ => .punct character joint place
  | .literal text _ => .literal text place
  | .group delimiter _ _ content => .group delimiter place place (locateAll place content)

/-- Give every token of several trees one region. -/
def locateAll (place : Option Region) : List TokenTree → List TokenTree
  | [] => []
  | tree :: rest => locate place tree :: locateAll place rest

end

end TokenTree

/-- The punctuation of one operator: all characters but the last are joint. -/
def operatorTokens (characters : List Char) : List TokenTree :=
  match characters with
  | [] => []
  | [last] => [.punct last false none]
  | first :: rest => .punct first true none :: operatorTokens rest

/-- A generated word. -/
def wordToken (word : String) : TokenTree := .word (.plain word) none

/-- A generated group. -/
def groupToken (delimiter : Delimiter) (content : List TokenTree) : TokenTree :=
  .group delimiter none none content

end Counterpart
