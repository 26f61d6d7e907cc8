import Counterpart.Declaration.Item
import Counterpart.Grammar.Parser

/-!
# The recursive parts of the grammar

The rules of the grammar refer to each other in circles. Every rule is an ordinary function of
the parsers for the constructs named here; one recursion, at the end, ties them together.
-/

namespace Counterpart

/-- How tightly an operator binds. -/
inductive Precedence where
  | jump
  | assign
  | range
  | or
  | and
  | condition
  | compare
  | bitOr
  | bitXor
  | bitAnd
  | shift
  | sum
  | product
  | cast
deriving DecidableEq, Repr, Inhabited

namespace Precedence

/-- The place in the order of precedences; the tighter operator has the greater one. -/
def rank : Precedence → Nat
  | jump => 0
  | assign => 1
  | range => 2
  | or => 3
  | and => 4
  | condition => 5
  | compare => 6
  | bitOr => 7
  | bitXor => 8
  | bitAnd => 9
  | shift => 10
  | sum => 11
  | product => 12
  | cast => 13

end Precedence

/-- The constructs that rules refer to. -/
inductive Nonterminal where
  /-- A type; a sum of bounds may or may not end it. -/
  | type (sums : Bool)
  /-- An expression; a struct literal may or may not end it. -/
  | expression (records : Bool)
  /-- Operators and operands behind a first operand, down to the given precedence. -/
  | operators (records : Bool) (floor : Precedence) (left : Tree)
  /-- The right operand of an operator with the given precedence. -/
  | operand (records : Bool) (above : Precedence)
  /-- What binds tighter than the given precedence behind the start of a right operand. -/
  | widened (records : Bool) (above : Precedence) (right : Tree)
  /-- An expression with its leading operators and all that stands behind it. -/
  | unary (records : Bool)
  /-- Calls, fields, indices and question marks behind an expression. -/
  | trailers (subject : Tree)
  /-- The expression of a match arm or a statement: it ends behind its block. -/
  | early
  /-- A pattern without alternatives. -/
  | pattern
  /-- A pattern with alternatives. -/
  | alternatives
  /-- A statement. -/
  | statement
  /-- A bound of a type. Some places admit a list of captured names, some a constant trait. -/
  | bound (captures constants : Bool)
  /-- The fields of a type without a name. -/
  | nestedFields
  /-- The tree of a `use` declaration. -/
  | useTree (rooted : Bool)
deriving Repr, Inhabited

/-- Parsers for the constructs that rules refer to. -/
structure Grammar where
  tree : Nonterminal → Parser Tree
  item : Parser Item

namespace Grammar

/-- An expression of any form. -/
def expression (grammar : Grammar) : Parser Tree := grammar.tree (.expression true)

/-- A type of any form. -/
def type (grammar : Grammar) : Parser Tree := grammar.tree (.type true)

end Grammar

end Counterpart
