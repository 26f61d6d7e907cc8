import Counterpart.Run.Body
import Counterpart.Sample.Value

/-!
# A sample host

A struct of three fields, the second of which has the first as its default and is named like the
value that generated code takes from a cell.
-/

namespace Counterpart.Sample

open Run

/-- A field of the sample struct that everyone sees. -/
def chainField (name : String) (attributes : List Attribute) : NamedField :=
  ⟨attributes, ⟨.everywhere, [Tree.word "pub"]⟩, .generated (.plain name),
    .node .typePath [Tree.pathOfName (.generated (.plain "Logged"))]⟩

/-- A helper that gives a field the value of another one as its default. -/
def chainDefault (name : String) : Attribute :=
  .generated ⟨⟨[], [.generated (.plain Attribute.markWord)]⟩,
    .list .parenthesis none none
      (Template.word "default" ++ Template.mark "=" ++ Template.word name)⟩

/-- The sample struct. -/
def chain : StructItem where
  attributes := []
  visibility := ⟨.everywhere, [Tree.word "pub"]⟩
  ident := .generated (.plain "Chain")
  generics := .none
  fields := .named [chainField "first" [], chainField "value" [chainDefault "first"],
    chainField "last" []] false

/-- The expression of a default that is the value of another field. -/
def chainReference (name : String) : Tree :=
  .node (.expression .path) [Tree.pathOfName (.generated (.plain name))]

/-- The parameter of a field of the sample struct. -/
def chainParameter (index : Nat) (name : String) (fallback : Option Tree) : Parameter :=
  ⟨index, .generated (.plain name), (chainField name []).type, fallback, []⟩

/-- The host that the sample struct is. -/
def chainHost : Host where
  item := chain.withoutHelpers.constrained
  naming := .ofHost chain.ident .standard none
  parameters := [chainParameter 0 "first" none,
    chainParameter 1 "value" (some (chainReference "first")), chainParameter 2 "last" none]
  visibility := .everywhere

/-- A default of the sample struct copies the latest local. -/
def chainEvaluate : Evaluator Value := fun _ locals =>
  match locals with
  | (_, value) :: _ => ⟨.finished value.copied, (), [.cloned value]⟩
  | [] => Action.stuck ()

/-- The sample struct passes all checks. -/
theorem ofStruct_chain : Host.ofStruct chain .standard none = .ok chainHost := rfl

/-- Code is emitted for the sample host. -/
theorem exists_emission_chain : ∃ emission, chainHost.emission = .ok emission := by
  have hsome : chainHost.emission.toOption.isSome = true := by decide +kernel
  cases hemission : chainHost.emission with
  | error reason =>
    rw [hemission] at hsome
    cases hsome
  | ok emission => exact ⟨emission, rfl⟩

end Counterpart.Sample
