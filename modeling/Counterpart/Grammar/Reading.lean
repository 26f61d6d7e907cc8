import Counterpart.Grammar.Item

/-!
# Reading code

The rules are tied together by a recursion on fuel. A rule consumes a token at the latest after a
fixed number of steps into other rules, so a multiple of the number of tokens is enough fuel.
-/

namespace Counterpart.Grammar

/-- The rule of a construct. -/
def rule (grammar : Grammar) : Nonterminal → Parser Tree
  | .type sums => typeRule grammar sums
  | .expression records => expressionRule grammar records
  | .operators records floor left => operatorsRule grammar records floor left
  | .operand records above => operandRule grammar records above
  | .widened records above right => widenedRule grammar records above right
  | .unary records => unaryRule grammar records
  | .trailers subject => trailersRule grammar subject
  | .early => earlyRule grammar
  | .pattern => patternRule grammar
  | .alternatives => alternativesRule grammar
  | .bound captures constants => boundRule grammar captures constants
  | .statement => statementRule grammar
  | .nestedFields => nestedFieldsRule grammar
  | .useTree rooted => useTreeRule grammar rooted

mutual

/-- Read a construct with the given depth of recursion. -/
def treeWithin : (fuel : Nat) → Nonterminal → Parser Tree
  | 0, _ => Parser.wantingNothing
  | fuel + 1, nonterminal => rule ⟨treeWithin fuel, itemWithin fuel⟩ nonterminal

/-- Read an item with the given depth of recursion. -/
def itemWithin : (fuel : Nat) → Parser Item
  | 0 => Parser.wantingNothing
  | fuel + 1 => itemRule ⟨treeWithin fuel, itemWithin fuel⟩

end

/-- The depth of recursion that reading the given tokens may need. -/
def fuelFor (tokens : List TokenTree) : Nat := 32 * (TokenTree.sizeAll tokens + 4)

/-- The grammar with enough fuel for the given tokens. -/
def forTokens (tokens : List TokenTree) : Grammar :=
  ⟨treeWithin (fuelFor tokens), itemWithin (fuelFor tokens)⟩

/-- Read all of the given tokens. -/
def read {α : Type} (parser : Grammar → Parser α) (tokens : List TokenTree) : Except Fault α :=
  Parser.runAll (parser (forTokens tokens)) tokens

end Counterpart.Grammar
