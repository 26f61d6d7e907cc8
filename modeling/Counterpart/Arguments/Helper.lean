import Counterpart.Arguments.Basic
import Counterpart.Declaration.Marking

/-!
# The arguments of field helpers

All helpers of a field together form one argument list. Its only argument is the default of the
field: any expression, where a string stands for the code in it.
-/

namespace Counterpart.Helper

/-- The names of the arguments. -/
def names : List String := ["default"]

/-- What a helper adds to the argument list of its field. -/
def offers (helper : Attribute) : List Offer :=
  match helper.content.arguments with
  | .word => []
  | .list _ _ _ content => Offer.ofTokens content
  | .value _ _ => [Checked.fail .valuedHelper helper.content.region]

open MetaItem

/-- The default that an argument gives. -/
def readDefault (item : MetaItem) : Checked Tree := do
  let value ← expectValue item
  match stringContent? value with
  | some content =>
    match (codeInString? value).map (Grammar.read Grammar.expression) with
    | some (.ok code) => .ok code
    | _ => rejectContent content value
  | none => .ok value

/-- The default of a field with the given attributes, if it has one. -/
def default? (attributes : List Attribute) : Checked (Option Tree) := do
  let helpers := attributes.filter Attribute.isHelper
  let items := Offer.sift names [] (helpers.flatMap offers)
  let defaults ← Checked.all (items.map fun item => item.bind readDefault)
  pure defaults.getLast?

end Counterpart.Helper
