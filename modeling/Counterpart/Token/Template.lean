import Counterpart.Token.Basic

/-!
# Writing generated code

Generated code is put together from words, operators, paths and groups. It has no regions.
-/

namespace Counterpart.Template

/-- An operator: its characters are joint with each other. -/
def mark (characters : String) : List TokenTree := operatorTokens characters.toList

/-- A word. -/
def word (text : String) : List TokenTree := [wordToken text]

/-- A name. -/
def name (ident : Ident) : List TokenTree := [.word ident none]

/-- Code in parentheses. -/
def parentheses (content : List TokenTree) : List TokenTree := [groupToken .parenthesis content]

/-- Code in braces. -/
def braces (content : List TokenTree) : List TokenTree := [groupToken .brace content]

/-- Code in angle brackets. -/
def angles (content : List TokenTree) : List TokenTree := mark "<" ++ content ++ mark ">"

/-- A path from the root of all crates. -/
def path (segments : List String) : List TokenTree :=
  segments.flatMap fun segment => mark "::" ++ word segment

/-- Pieces with commas between them. -/
def commas : List (List TokenTree) → List TokenTree
  | [] => []
  | [last] => last
  | first :: rest => first ++ mark "," ++ commas rest

/-! ## What generated code refers to -/

/-- The type of results. -/
def resultPath : List TokenTree := path ["core", "result", "Result"]

/-- The error for a property without a value. -/
def errorPath : List TokenTree := path ["piecemeal", "UninitializedProperty"]

/-- The type of cells. -/
def cellPath : List TokenTree := path ["piecemeal", "Tracked"]

/-- The type that only stands for the use of other types. -/
def phantomPath : List TokenTree := path ["core", "marker", "PhantomData"]

/-- The trait of functions that can be called once. -/
def callablePath : List TokenTree := path ["core", "ops", "FnOnce"]

/-- The trait of types with a default. -/
def defaultPath : List TokenTree := path ["core", "default", "Default"]

end Counterpart.Template
