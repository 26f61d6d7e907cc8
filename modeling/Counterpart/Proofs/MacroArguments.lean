import Mathlib
import Counterpart.Proofs.LocalNames

/-!
# Words in the arguments of a macro call

The arguments of a macro call are not in the grammar. What is made of a word among them depends on
the tokens directly in front of it and on the one directly behind it, and on nothing else. It is a
field or a segment of a path behind a lone dot or two colons, it is a label in front of a lone colon
or equals sign, and it is taken for a reference everywhere else. So lifetimes, first segments of
paths and labels whose mark touches the next operator are taken for references.
-/

namespace Counterpart

namespace Occurrence

/-! ## What a scan knows behind tokens -/

/-- The punctuation character at the end of tokens, if it is joint, and whether a word behind them
would be a field or a segment of a path, when both are known in front of the tokens. -/
def behind : Option Char × Bool → List TokenTree → Option Char × Bool
  | state, [] => state
  | state, .punct character joint _ :: rest =>
    behind (if joint then some character else none, leadsName state.1 character) rest
  | _, _ :: rest => behind (none, false) rest

theorem behind_append (state : Option Char × Bool) (first second : List TokenTree) :
    behind state (first ++ second) = behind (behind state first) second := by
  induction first generalizing state with
  | nil => rfl
  | cons token rest ih => cases token <;> exact ih _

/-- A word or a group is in front of no mark of a label. -/
theorem isLabel_append {first second : List TokenTree} (h : isLabel second = false) :
    isLabel (first ++ second) = isLabel first := by
  cases first with
  | nil => exact h
  | cons token rest => cases token <;> rfl

theorem labels_append {first second : List TokenTree} (h : isLabel second = false) :
    labels (first ++ second) = labels first ++ labels second := by
  induction first with
  | nil => rfl
  | cons token rest ih =>
    cases token with
    | word ident region =>
      rw [List.cons_append, labels, labels, isLabel_append h, ih]
      split <;> rfl
    | _ => exact ih

/-- Tokens are scanned in two parts, if the second does not begin with the mark of a label. -/
theorem inTokens_parts (bound named : List Ident) {second : List TokenTree}
    (h : isLabel second = false) :
    ∀ (first : List TokenTree) (state : Option Char × Bool),
      inTokens bound named state.1 state.2 (first ++ second) =
        inTokens bound named state.1 state.2 first ++
          inTokens bound named (behind state first).1 (behind state first).2 second := by
  intro first
  induction first with
  | nil =>
    intro state
    rw [List.nil_append, inTokens, List.nil_append, behind]
  | cons token rest ih =>
    intro state
    rw [List.cons_append]
    cases token with
    | word ident region =>
      rw [inTokens, inTokens, isLabel_append h, ih (none, false), List.append_assoc]
      rfl
    | punct character joint region =>
      rw [inTokens, inTokens, ih (if joint then some character else none, leadsName state.1 character)]
      rfl
    | literal text region =>
      rw [inTokens, inTokens, ih (none, false), List.append_assoc]
      rfl
    | group delimiter opening closing content =>
      rw [inTokens, inTokens, ih (none, false), List.append_assoc]
      rfl

/-- Tokens end in a punctuation character that belongs together with the next. -/
def EndsJoint (character : Char) (tokens : List TokenTree) : Prop :=
  ∃ front region, tokens = front ++ [.punct character true region]

/-- Tokens end in a dot that is not the second of two, or in two colons. -/
def Continued (tokens : List TokenTree) : Prop :=
  ∃ front character joint region, tokens = front ++ [.punct character joint region] ∧
    (character = '.' ∧ ¬ EndsJoint '.' front ∨ character = ':' ∧ EndsJoint ':' front)

/-- The joint character that is known is the last token. -/
theorem behind_fst_iff {tokens : List TokenTree} {character : Char} :
    (behind (none, false) tokens).1 = some character ↔ EndsJoint character tokens := by
  rcases List.eq_nil_or_concat tokens with rfl | ⟨front, last, rfl⟩
  · simp [behind, EndsJoint]
  · rw [List.concat_eq_append, behind_append]
    cases last with
    | punct own joint region =>
      cases joint <;> simp [behind, EndsJoint, List.append_singleton_inj]
    | _ => simp [behind, EndsJoint, List.append_singleton_inj]

theorem leadsName_iff {before : Option Char} {character : Char} :
    leadsName before character = true ↔
      character = '.' ∧ before ≠ some '.' ∨ character = ':' ∧ before = some ':' := by
  unfold leadsName
  split_ifs with hdot hcolon
  · simp [hdot]
  · simp [hcolon]
  · simp [hdot, hcolon]

/-- A word is taken for a field or a segment of a path exactly behind a lone dot or two colons. -/
theorem behind_snd_iff {tokens : List TokenTree} :
    (behind (none, false) tokens).2 = true ↔ Continued tokens := by
  rcases List.eq_nil_or_concat tokens with rfl | ⟨front, last, rfl⟩
  · simp [behind, Continued]
  · rw [List.concat_eq_append, behind_append]
    cases last with
    | punct character joint region =>
      show leadsName (behind (none, false) front).1 character = true ↔ _
      rw [leadsName_iff, ne_eq, behind_fst_iff, behind_fst_iff]
      simp [Continued, List.append_singleton_inj]
    | _ => simp [behind, Continued, List.append_singleton_inj]

instance (tokens : List TokenTree) : Decidable (Continued tokens) :=
  decidable_of_iff _ behind_snd_iff

end Occurrence

/-! ## Places in the arguments -/

/-- A place among tokens, at any depth of groups. -/
inductive Place where
  | here (front back : List TokenTree)
  | grouped (front : List TokenTree) (delimiter : Delimiter) (opening closing : Option Region)
      (inner : Place) (back : List TokenTree)

namespace Place

open Occurrence

/-- The tokens with the given one in the place. -/
def fill (token : TokenTree) : Place → List TokenTree
  | here front back => front ++ token :: back
  | grouped front delimiter opening closing inner back =>
    front ++ .group delimiter opening closing (inner.fill token) :: back

/-- A word in the place would be a field or a segment of a path. -/
def IsContinued : Place → Prop
  | here front _ => Continued front
  | grouped _ _ _ _ inner _ => inner.IsContinued

/-- The place is in front of the mark of a label: a lone colon or equals sign. -/
def IsLabelled : Place → Prop
  | here _ back => isLabel back = true
  | grouped _ _ _ _ inner _ => inner.IsLabelled

instance decidableIsContinued : (place : Place) → Decidable place.IsContinued
  | here front _ => inferInstanceAs (Decidable (Continued front))
  | grouped _ _ _ _ inner _ => decidableIsContinued inner

instance decidableIsLabelled : (place : Place) → Decidable place.IsLabelled
  | here _ back => inferInstanceAs (Decidable (isLabel back = true))
  | grouped _ _ _ _ inner _ => decidableIsLabelled inner

/-- The label that a word in the place is, if it is one. -/
def label? (place : Place) (ident : Ident) : Option Ident :=
  if place.IsLabelled then some ident else none

/-- What a scan of the arguments of a macro call finds around a word does not depend on the word,
unless it is a label, and the word is found unless it is a label, a field or a segment of a path. -/
theorem exists_inTokens_fill (bound : List Ident) (place : Place) :
    ∃ first last : Option Ident → List Occurrence, ∀ ident region,
      inTokens bound (labels (place.fill (.word ident region))) none false
          (place.fill (.word ident region)) =
        first (place.label? ident) ++
          (if place.IsContinued ∨ place.IsLabelled then [] else [within bound ident region]) ++
          last (place.label? ident) := by
  induction place with
  | here front back =>
    let named (label : Option Ident) := labels front ++ label.toList ++ labels back
    refine ⟨fun label => inTokens bound (named label) none false front,
      fun label => inTokens bound (named label) none false back, fun ident region => ?_⟩
    have hnamed : labels (front ++ .word ident region :: back) =
        named ((here front back).label? ident) := by
      rw [labels_append rfl]
      by_cases hlabel : isLabel back = true <;> simp [labels, named, label?, IsLabelled, hlabel]
    have hplace : (behind (none, false) front).2 = true ∨ isLabel back = true ↔
        (here front back).IsContinued ∨ (here front back).IsLabelled := by
      rw [behind_snd_iff]
      rfl
    rw [fill, hnamed, inTokens_parts bound _ rfl front (none, false), inTokens, List.append_assoc]
    simp only [Bool.or_eq_true, hplace]
  | grouped front delimiter opening closing inner back ih =>
    obtain ⟨first, last, hinner⟩ := ih
    let named := labels front ++ labels back
    refine ⟨fun label => inTokens bound named none false front ++ first label,
      fun label => last label ++ inTokens bound named none false back, fun ident region => ?_⟩
    have hnamed : labels (front ++
        .group delimiter opening closing (inner.fill (.word ident region)) :: back) = named := by
      rw [labels_append rfl]
      rfl
    rw [fill, hnamed, inTokens_parts bound _ rfl front (none, false), inTokens, hinner]
    simp only [List.append_assoc]
    rfl

end Place

/-! ## Macro calls -/

namespace Occurrence

theorem inArguments_parts (bound : List Ident) (first second : List Tree) :
    inArguments bound (first ++ second) = inArguments bound first ++ inArguments bound second := by
  fun_induction inArguments bound first with
  | case1 => rfl
  | case2 delimiter opening closing content rest ih =>
    rw [List.cons_append, inArguments, ih, List.append_assoc]
  | case3 part rest hpart ih =>
    rw [List.cons_append, inArguments, ih]
    exact hpart

theorem ofExpression_macroCall (parts : List Tree) :
    ofExpression (.node (.expression .macroCall) [.node .macroCall parts]) =
      inArguments [] parts := by
  rw [ofExpression, inTree]
  · simp [inTurn, inBodyAttributes, turn, Tree.isKind, inTree]
  all_goals simp

end Occurrence

namespace Parameter

open Occurrence

/-- The errors about a macro call as the default of a parameter, with a word in a place among its
arguments. The word is judged unless it stands behind a lone dot or two colons, or in front of a lone
colon or equals sign. It changes the errors about the rest only if it is a label. -/
theorem referenceDiagnosticsOf_macroCall (parameters : List Parameter) (current : Parameter)
    (head tail : List Tree) (delimiter : Delimiter) (opening closing : Option Region)
    (place : Place) :
    ∃ before after : Option Ident → List Diagnostic, ∀ ident region,
      referenceDiagnosticsOf parameters
          { current with fallback := some (.node (.expression .macroCall) [.node .macroCall
            (head ++ .leaf (.group delimiter opening closing
              (place.fill (.word ident region))) :: tail)]) } =
        before (place.label? ident) ++
          (if place.IsContinued ∨ place.IsLabelled then []
            else (judge parameters current ⟨ident, region, false⟩).toList) ++
          after (place.label? ident) := by
  obtain ⟨first, last, hfill⟩ := place.exists_inTokens_fill []
  refine ⟨fun label => (inArguments [] head ++ first label).filterMap (judge parameters current),
    fun label => (last label ++ inArguments [] tail).filterMap (judge parameters current),
    fun ident region => ?_⟩
  show (ofExpression _).filterMap (judge parameters current) = _
  rw [ofExpression_macroCall, inArguments_parts, inArguments, hfill]
  simp only [List.filterMap_append, List.append_assoc]
  congr 3
  split
  · rfl
  · cases hjudge : judge parameters current ⟨ident, region, false⟩ <;> simp [within, hjudge]

end Parameter

namespace Sample

/-- The struct of the fields `a` and `b`, of which `a` has the given default. -/
def pairWithDefault (fallback : Tree) : List Parameter :=
  [⟨0, ⟨.plain "a", none⟩, default, some fallback, []⟩, ⟨1, ⟨.plain "b", none⟩, default, none, []⟩]

/-- The tokens as the arguments of a macro call. -/
def callOn (tokens : List TokenTree) : Tree :=
  .node (.expression .macroCall) [.node .macroCall (Tree.pathOfName ⟨.plain "m", none⟩ ::
    Tree.operator "!" ++ [.leaf (groupToken .parenthesis tokens)])]

/-- The tokens of `Item { b:&1 }`, `b::X` and `break 'b`. -/
def notReferring : List (List TokenTree) :=
  [Template.word "Item" ++ [groupToken .brace (Template.word "b" ++ Template.mark ":&"
      ++ [.literal "1" none])],
    Template.word "b" ++ Template.mark "::" ++ Template.word "X",
    Template.word "break" ++ .punct '\'' true none :: Template.word "b"]

/-- Why a default that the tokens are is rejected, if they are an expression. -/
def causesOfTokens (tokens : List TokenTree) : Option (List Cause) :=
  (Grammar.read Grammar.expression tokens).toOption.map fun expression =>
    (Parameter.referenceDiagnostics (pairWithDefault expression)).map (·.cause)

end Sample

/-- A label whose colon is joint, the first segment of a path and a lifetime are reported among the
arguments of a macro call, and not outside of them. -/
theorem words_reported_in_call :
    Sample.notReferring.map Sample.causesOfTokens = [some [], some [], some []] ∧
    Sample.notReferring.map (fun tokens => (Parameter.referenceDiagnostics
        (Sample.pairWithDefault (Sample.callOn tokens))).map (·.cause)) =
      [[.refersAhead "a" "b"], [.refersAhead "a" "b"], [.refersAhead "a" "b"]] := by
  constructor
  · decide +kernel
  · cbv

end Counterpart
