import Counterpart.Proofs.MacroArguments
import Counterpart.Proofs.ScannedItems

/-!
# Defaults that are wrapped in a macro call

An expression that is read from the arguments of a macro call is covered by the scan of these
arguments. So what is reported about a reference in a default is reported as well if the default
stands in the arguments of a macro call, unless the scan takes the reference for a label.
-/

open Std.Do Counterpart.Occurrence Counterpart.Scan Counterpart.Parser

namespace Counterpart

namespace Grammar

variable [Scan]

theorem sound_empty : Sound ⟨treeWithin 0, itemWithin 0⟩ := by
  constructor
  all_goals
    intros
    refine triple_iff.mpr ?_
    simp only [treeWithin, itemWithin]
    exact nofun

/-- The parsers with one more level of recursion read covered code if those they refer to do. -/
theorem sound_succ (fuel : Nat) [Sound ⟨treeWithin fuel, itemWithin fuel⟩] :
    Sound ⟨treeWithin (fuel + 1), itemWithin (fuel + 1)⟩ where
  type := typeRule_spec _
  expression := expressionRule_spec _
  operators := operatorsRule_spec _
  operand := operandRule_spec _
  widened := widenedRule_spec _
  unary := unaryRule_spec _
  trailers := trailersRule_spec _
  early := earlyRule_spec _
  pattern := patternRule_spec _
  alternatives := alternativesRule_spec _
  statement := statementRule_spec _
  bound := boundRule_spec _
  nestedFields := nestedFieldsRule_spec _
  useTree := useTreeRule_spec _
  item := itemRule_spec _

theorem sound_within (fuel : Nat) : Sound ⟨treeWithin fuel, itemWithin fuel⟩ := by
  induction fuel with
  | zero => exact sound_empty
  | succ fuel ih => exact sound_succ fuel

/-- A scan that is ready for the tokens of an expression covers the expression. -/
theorem covers_of_read {tokens : List TokenTree} {expression : Tree} (hready : Ready tokens)
    (h : read Grammar.expression tokens = .ok expression) : Covers expression := by
  have hsound : Sound (forTokens tokens) := sound_within (fuelFor tokens)
  rw [read, runAll] at h
  split at h
  · cases h
  · next value cursor hcursor =>
    split at h
    · next hread =>
      cases h
      obtain ⟨hunread, hover⟩ := read_up hread
      have hleads := triple_iff.mp (expression_spec (forTokens tokens) _) _ _ hcursor
      obtain ⟨-, -, hcovers⟩ := (hleads hunread).2 hready
      exact hcovers (.inl (by rw [hover]; rfl))
    · cases h

end Grammar

namespace Occurrence

/-- What is found outside of all local scopes is bound by none. -/
theorem isBound_of_mem_inTokens {named : List Ident} {before : Option Char} {isName : Bool}
    {tokens : List TokenTree} {occurrence : Occurrence}
    (h : occurrence ∈ inTokens [] named before isName tokens) : occurrence.isBound = false := by
  fun_induction inTokens [] named before isName tokens with
  | case1 => cases h
  | case2 named before isName ident region rest own ih =>
    obtain hown | hrest := List.mem_append.mp h
    · simp only [own] at hown
      split at hown
      · cases hown
      · obtain rfl := List.mem_singleton.mp hown
        rfl
    · exact ih hrest
  | case3 named before isName character joint region rest ih => exact ih h
  | case4 named before isName text region rest own ih =>
    obtain hown | hrest := List.mem_append.mp h
    · obtain ⟨ident, -, rfl⟩ := List.mem_map.mp hown
      rfl
    · exact ih hrest
  | case5 named before isName delimiter opening closing content rest ihcontent ihrest =>
    obtain hcontent | hrest := List.mem_append.mp h
    · exact ihcontent hcontent
    · exact ihrest hrest

/-- The scan of the given tokens as the arguments of a macro call. -/
@[reducible] def scanOf (tokens : List TokenTree) : Scan where
  finds ident := ⟨ident.value, ident.region, false⟩ ∈ inTokens [] (labels tokens) none false tokens

/-- What an expression refers to is found among the arguments of a macro call, if they are the
expression and it is plain. -/
theorem mem_inTokens_of_read {tokens : List TokenTree} {expression : Tree}
    (hread : Grammar.read Grammar.expression tokens = .ok expression)
    (hplain : expression.IsPlain) {occurrence : Occurrence}
    (h : occurrence ∈ ofExpression expression) :
    ⟨occurrence.ident, occurrence.region, false⟩ ∈ inTokens [] (labels tokens) none false tokens := by
  let scan := scanOf tokens
  have hfinds : Finds (inTokens [] (labels tokens) none false tokens) := by
    rintro ⟨ident, region, isBound⟩ hfound
    obtain rfl : isBound = false := isBound_of_mem_inTokens hfound
    exact hfound
  have hcovers := Grammar.covers_of_read ⟨labels tokens, none, hfinds⟩ hread
  exact finds_inTree [] expression hcovers hplain occurrence h

end Occurrence

namespace Parameter

/-- What is wrong with a word that a scope binds is wrong with it outside of the scope. -/
theorem judge_unbound {parameters : List Parameter} {current : Parameter}
    {occurrence : Occurrence} {diagnostic : Diagnostic}
    (h : judge parameters current occurrence = some diagnostic) :
    judge parameters current ⟨occurrence.ident, occurrence.region, false⟩ = some diagnostic := by
  unfold judge at h ⊢
  split
  · next hself => rwa [if_pos hself] at h
  · next hself =>
    rw [if_neg hself] at h
    split at h
    · cases h
    · exact h

/-- The parameter with the given default. -/
def withFallback (parameter : Parameter) (fallback : Tree) : Parameter :=
  { parameter with fallback := some fallback }

/-- What is wrong with a reference does not depend on the default of any parameter. -/
theorem judge_withFallback (earlier later : List Parameter) (current : Parameter)
    (first second : Tree) :
    judge (earlier ++ current.withFallback first :: later) =
      judge (earlier ++ current.withFallback second :: later) := by
  funext other occurrence
  simp only [judge, List.find?_append, List.find?_cons, withFallback]
  cases earlier.find? fun parameter => parameter.name.value = occurrence.ident with
  | some referenced => rfl
  | none =>
    rw [Option.none_or, Option.none_or]
    cases decide (current.name.value = occurrence.ident) <;> rfl

/-- Each error about a default without assignments and conditions with `let` is an error about a
macro call with the default as its arguments, whatever the call is and however the tokens of the
default are spaced, unless the pattern of an input in the default ends in a word in front of the
colon. The other parameters are in error as before. -/
theorem reported_in_call (earlier later : List Parameter) (current : Parameter)
    {tokens : List TokenTree} {expression : Tree}
    (hread : Grammar.read Grammar.expression tokens = .ok expression)
    (hassigning : expression.has Tree.isAssigning = false)
    (hlabels : expression.has Tree.labelsInput = false) (head tail : List Tree)
    (delimiter : Delimiter) (opening closing : Option Region) :
    let alone := current.withFallback expression
    let wrapped := current.withFallback (.node (.expression .macroCall) [.node .macroCall
      (head ++ .leaf (.group delimiter opening closing tokens) :: tail)])
    referenceDiagnosticsOf (earlier ++ alone :: later) alone ⊆
        referenceDiagnosticsOf (earlier ++ wrapped :: later) wrapped ∧
      ∀ other ∈ earlier ++ later, referenceDiagnosticsOf (earlier ++ alone :: later) other =
        referenceDiagnosticsOf (earlier ++ wrapped :: later) other := by
  intro alone wrapped
  have hjudge : judge (earlier ++ alone :: later) = judge (earlier ++ wrapped :: later) :=
    judge_withFallback earlier later current _ _
  constructor
  · intro diagnostic hdiagnostic
    obtain ⟨occurrence, hoccurrence, hreported⟩ := List.mem_filterMap.mp hdiagnostic
    have hfound := mem_inTokens_of_read hread ⟨hassigning, hlabels⟩ hoccurrence
    rw [hjudge] at hreported
    have hwrapped : judge (earlier ++ wrapped :: later) wrapped occurrence = some diagnostic :=
      hreported
    refine List.mem_filterMap.mpr ⟨_, ?_, judge_unbound hwrapped⟩
    rw [ofExpression_macroCall, inArguments_parts, inArguments]
    exact List.mem_append_right _ (List.mem_append_left _ hfound)
  · intro other _
    rw [referenceDiagnosticsOf, referenceDiagnosticsOf, hjudge]

end Parameter

namespace Sample

/-- The tokens of `[0..b, S { b, c: (..=b) }]`. -/
def nestedReferences : List TokenTree :=
  let field := Template.word "c" ++ Template.mark ":" ++
    [groupToken .parenthesis (Template.mark "..=" ++ Template.word "b")]
  [groupToken .bracket (.literal "0" none :: Template.mark ".." ++ Template.word "b" ++
    Template.mark "," ++ Template.word "S" ++
      [groupToken .brace (Template.word "b" ++ Template.mark "," ++ field)])]

/-- The tokens of `|..=b: u8| 0`. -/
def labelledInput : List TokenTree :=
  Template.mark "|..=" ++ Template.word "b" ++ Template.mark ":" ++ Template.word "u8" ++
    Template.mark "|" ++ [.literal "0" none]

/-- The errors about the first of the parameters `a` and `b` if it has the given default. -/
def errorsWith (fallback : Tree) : List Diagnostic :=
  Parameter.referenceDiagnosticsOf (pairWithDefault fallback)
    ((⟨0, ⟨.plain "a", none⟩, default, none, []⟩ : Parameter).withFallback fallback)

end Sample

/-- References in the bounds of ranges and in the fields of a struct are reported in a call as they
are outside of it. -/
theorem nested_references_reported :
    ∃ expression, Grammar.read Grammar.expression Sample.nestedReferences = .ok expression ∧
      expression.has Tree.isAssigning = false ∧ expression.has Tree.labelsInput = false ∧
      (Sample.errorsWith expression).map (·.cause) = List.replicate 3 (.refersAhead "a" "b") ∧
      Sample.errorsWith expression ⊆ Sample.errorsWith (Sample.callOn Sample.nestedReferences) := by
  have hfacts : (Grammar.read Grammar.expression Sample.nestedReferences).toOption.map
      (fun expression => (expression.has Tree.isAssigning, expression.has Tree.labelsInput,
        (Sample.errorsWith expression).map (·.cause))) =
      some (false, false, List.replicate 3 (.refersAhead "a" "b")) := by
    decide +kernel
  cases hread : Grammar.read Grammar.expression Sample.nestedReferences with
  | error fault =>
    rw [hread] at hfacts
    cases hfacts
  | ok expression =>
    rw [hread] at hfacts
    obtain ⟨hassigning, hlabels, hcauses⟩ := by simpa using Option.some.inj hfacts
    refine ⟨expression, rfl, hassigning, hlabels, hcauses, ?_⟩
    exact (Parameter.reported_in_call [] [⟨1, ⟨.plain "b", none⟩, default, none, []⟩]
      ⟨0, ⟨.plain "a", none⟩, default, none, []⟩ hread hassigning hlabels
      (Tree.pathOfName ⟨.plain "m", none⟩ :: Tree.operator "!") [] .parenthesis none none).1

/-- In front of the colon of its type, a pattern that ends in a reference hides it in a call. -/
theorem label_hides_reference :
    (Grammar.read Grammar.expression Sample.labelledInput).toOption.map
        (fun expression => (expression.has Tree.isAssigning,
          (Sample.errorsWith expression).map (·.cause))) =
      some (false, [.refersAhead "a" "b"]) ∧
    Sample.errorsWith (Sample.callOn Sample.labelledInput) = [] := by
  constructor
  · decide +kernel
  · cbv

end Counterpart
