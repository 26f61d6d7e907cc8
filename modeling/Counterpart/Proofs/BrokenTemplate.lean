import Counterpart.Proofs.InternalErrors
import Counterpart.Proofs.Linking

/-!
# When a template ends the expansion

Code of the user stands in templates as it was written. Two places ask for more than that it is an
expression or a type: a getter borrows the type of its property, and a default is the arm of a
match. An arm that starts with a block ends behind it, so a default that goes on there leaves tokens
that belong to no arm, and the expansion ends without an outcome.
-/

namespace Counterpart

namespace Parser

variable {α β : Type}

/-- A parser that succeeds behind another one found the other one successful. -/
theorem exists_of_bind {parser : Parser α} {next : α → Parser β} {cursor : Cursor}
    {result : β × Cursor} (h : (parser >>= next) cursor = .ok result) :
    ∃ value after, parser cursor = .ok (value, after) ∧ next value after = .ok result := by
  change (parser cursor >>= fun (value, after) => next value after) = .ok result at h
  cases hfirst : parser cursor with
  | error fault =>
    rw [hfirst] at h
    cases h
  | ok found =>
    rw [hfirst] at h
    exact ⟨found.1, found.2, rfl, h⟩

/-- Code that is read as a whole leaves nothing to read. -/
theorem rest_eq_nil_of_runAll {parser : Parser α} {tokens : List TokenTree} {value : α}
    (h : runAll parser tokens = .ok value) :
    ∃ after, parser (.ofTokens tokens) = .ok (value, after) ∧ after.rest = [] := by
  unfold runAll at h
  split at h
  · cases h
  · next found after hparser =>
    split at h
    · next hunread =>
      cases h
      refine ⟨after, hparser, ?_⟩
      cases hrest : after.rest with
      | nil => rfl
      | cons tree rest =>
        rw [unreadAt, hrest] at hunread
        cases hearlier : after.unread <;> simp [hearlier] at hunread
    · cases h

/-- Behind a group stands what stood behind its closing delimiter. -/
theorem rest_of_groupOf {delimiter : Delimiter} {parser : Parser (List Tree)} {cursor after : Cursor}
    {opening closing : Option Region} {content rest : List TokenTree} {tree : Tree}
    (hcursor : cursor.rest = .group delimiter opening closing content :: rest)
    (h : groupOf delimiter parser cursor = .ok (tree, after)) : after.rest = rest := by
  obtain ⟨found, inner, hinside, hpure⟩ := exists_of_bind h
  cases hpure
  unfold inside at hinside
  rw [hcursor] at hinside
  simp only [if_true] at hinside
  split at hinside <;> cases hinside
  rfl

/-- Behind a keyword stands what stood there. -/
theorem rest_of_keyword {word : String} {cursor after : Cursor} {tree : TokenTree}
    {rest : List TokenTree} {trees : List Tree} (hcursor : cursor.rest = tree :: rest)
    (h : keyword word cursor = .ok (trees, after)) : after.rest = rest := by
  unfold keyword at h
  rw [hcursor] at h
  simp only at h
  split at h <;> cases h
  rfl

end Parser

namespace Grammar

open Counterpart.Parser

/-- Code that starts with a block, which may stand behind a word for its kind, and what stands
behind the block. -/
inductive StartsWithBlock : List TokenTree → List TokenTree → Prop
  | plain {opening closing : Option Region} {content rest : List TokenTree} :
    StartsWithBlock (.group .brace opening closing content :: rest) rest
  | unchecked {region opening closing : Option Region} {content rest : List TokenTree} :
    StartsWithBlock
      (.word (.plain "unsafe") region :: .group .brace opening closing content :: rest) rest
  | repeated {region opening closing : Option Region} {content rest : List TokenTree} :
    StartsWithBlock
      (.word (.plain "loop") region :: .group .brace opening closing content :: rest) rest

variable {grammar : Grammar} {cursor after : Cursor} {tree : Tree} {rest : List TokenTree}

/-- Where no attribute stands, none is read. -/
theorem outerTrees_of_not_ahead (h : Lookahead.operator "#" cursor.rest = false) :
    outerTrees grammar cursor = .ok ([], cursor) := by
  have hattributes : outerAttributes grammar cursor = .ok ([], cursor) := by
    change attributeLoop (cursor.rest.length + 1) _ _ cursor = _
    unfold attributeLoop
    change (if Lookahead.operator "#" cursor.rest then _ else pure [] : Parser _) cursor = _
    rw [h]
    rfl
  change (outerAttributes grammar cursor >>= _) = _
  rw [hattributes]
  rfl

theorem rest_of_attributedBlock {opening closing : Option Region} {content : List TokenTree}
    (hcursor : cursor.rest = .group .brace opening closing content :: rest)
    (h : attributedBlock grammar cursor = .ok (tree, after)) : after.rest = rest := by
  obtain ⟨braces, behind, hgroup, hpure⟩ := exists_of_bind h
  cases hpure
  exact rest_of_groupOf hcursor hgroup

/-- A block is read up to its closing brace, and a statement ends there. -/
theorem plainBlock_eq_ok {opening closing : Option Region} {content : List TokenTree}
    (hcursor : cursor.rest = .group .brace opening closing content :: rest)
    (h : plainBlock grammar cursor = .ok (tree, after)) :
    after.rest = rest ∧ tree.endsStatement = true := by
  obtain ⟨body, behind, hbody, hpure⟩ := exists_of_bind h
  cases hpure
  exact ⟨rest_of_attributedBlock hcursor hbody, rfl⟩

theorem unsafeBlock_eq_ok {word : TokenTree} {opening closing : Option Region}
    {content : List TokenTree}
    (hcursor : cursor.rest = word :: .group .brace opening closing content :: rest)
    (h : unsafeBlock grammar cursor = .ok (tree, after)) :
    after.rest = rest ∧ tree.endsStatement = true := by
  obtain ⟨words, middle, hword, h⟩ := exists_of_bind h
  obtain ⟨body, behind, hbody, hpure⟩ := exists_of_bind h
  cases hpure
  exact ⟨rest_of_attributedBlock (rest_of_keyword hcursor hword) hbody, rfl⟩

theorem plainLoop_eq_ok {word : TokenTree} {opening closing : Option Region}
    {content : List TokenTree}
    (hcursor : cursor.rest = word :: .group .brace opening closing content :: rest)
    (h : plainLoop grammar cursor = .ok (tree, after)) :
    after.rest = rest ∧ tree.endsStatement = true := by
  obtain ⟨words, middle, hword, h⟩ := exists_of_bind h
  obtain ⟨body, behind, hbody, hpure⟩ := exists_of_bind h
  cases hpure
  exact ⟨rest_of_attributedBlock (rest_of_keyword hcursor hword) hbody, rfl⟩

/-- The start of an arm that starts with a block is the block. -/
theorem earlyStart_eq_ok (hstarts : StartsWithBlock cursor.rest rest)
    (h : earlyStart grammar cursor = .ok (tree, after)) :
    after.rest = rest ∧ tree.endsStatement = true := by
  obtain ⟨tokens, behind, hahead, h⟩ := exists_of_bind h
  cases hahead
  generalize htokens : cursor.rest = tokens at hstarts h
  cases hstarts with
  | plain => exact plainBlock_eq_ok htokens h
  | unchecked => exact unsafeBlock_eq_ok htokens h
  | repeated => exact plainLoop_eq_ok htokens h

/-- An arm that starts with a block ends behind it, unless a dot or a question mark goes on. -/
theorem rest_of_earlyRule (hstarts : StartsWithBlock cursor.rest rest)
    (hdot : dotAhead rest = false) (hquestion : Lookahead.operator "?" rest = false)
    (h : earlyRule grammar cursor = .ok (tree, after)) : after.rest = rest := by
  have hattribute : Lookahead.operator "#" cursor.rest = false := by
    generalize cursor.rest = tokens at hstarts
    cases hstarts <;> rfl
  obtain ⟨attributes, first, hattributes, h⟩ := exists_of_bind h
  rw [outerTrees_of_not_ahead hattribute] at hattributes
  cases hattributes
  obtain ⟨start, behind, hstart, h⟩ := exists_of_bind h
  obtain ⟨hbehind, hends⟩ := earlyStart_eq_ok hstarts hstart
  -- A block ends its statement, so only a dot or a question mark makes the arm longer.
  rw [hends] at h
  obtain ⟨tokens, last, hahead, h⟩ := exists_of_bind h
  cases hahead
  rw [hbehind, hdot, hquestion] at h
  cases h
  exact hbehind

end Grammar

namespace Host

/-- A default that starts with a block and goes on behind it is no arm. -/
theorem admitsArm_eq_false {expression : Tree} {rest : List TokenTree}
    (hstarts : Grammar.StartsWithBlock expression.tokens rest) (hrest : rest ≠ [])
    (hdot : Grammar.dotAhead rest = false) (hquestion : Lookahead.operator "?" rest = false) :
    admitsArm expression = false := by
  unfold admitsArm
  split
  · next tree hread =>
    obtain ⟨after, hparser, hnil⟩ := Parser.rest_eq_nil_of_runAll hread
    exact absurd ((Grammar.rest_of_earlyRule hstarts hdot hquestion hparser).symm.trans hnil) hrest
  · rfl

/-! ## Emissions that end -/

/-- The templates of bodies have room for a parameter: it has a name, and its default is an arm. -/
def Accommodates (host : Host) (parameter : Parameter) : Prop :=
  parameter.name.value.isName = true ∧ admitsFallback (host.fallbackOf parameter) = true

variable {host : Host}

theorem provided_eq_broken_iff {α : Type} {condition : Bool} {value : α} :
    (do provided condition; pure value : Generated α) = .error .brokenTemplate ↔
      condition = false := by
  cases condition with
  | false => exact ⟨fun _ => rfl, fun _ => rfl⟩
  | true => exact ⟨nofun, nofun⟩

/-- Where a parameter lacks a name, the templates have no room for it. -/
theorem exists_not_accommodates (h : host.hasNames = false) :
    ∃ parameter ∈ host.parameters, ¬ host.Accommodates parameter := by
  obtain ⟨parameter, hparameter, hname⟩ := List.all_eq_false.mp h
  exact ⟨parameter, hparameter, fun haccommodates => hname haccommodates.1⟩

/-- A body that ends the expansion has no room for some parameter. -/
theorem Numbered.exists_not_accommodates_of_body (h : host.Numbered) {member : Member}
    (hmember : member ∈ host.table) (hkind : member.kind ≠ .counterpart)
    (hbody : host.body host.table member = .error .brokenTemplate) :
    ∃ parameter ∈ host.parameters, ¬ host.Accommodates parameter := by
  rcases mem_table_cases hmember with
    rfl | rfl | ⟨parameter, hparameter, accessor, rfl⟩ | rfl | rfl | rfl | rfl
  · exact absurd rfl hkind
  · exact exists_not_accommodates (provided_eq_broken_iff.mp hbody)
  · rw [body_accessorMember h hparameter accessor] at hbody
    have hname := provided_eq_broken_iff.mp hbody
    refine ⟨parameter, hparameter, fun haccommodates => ?_⟩
    exact Bool.false_ne_true (hname.symm.trans haccommodates.1)
  · have hcondition := provided_eq_broken_iff.mp hbody
    rcases Bool.and_eq_false_iff.mp hcondition with hnames | hfallbacks
    · exact exists_not_accommodates hnames
    · obtain ⟨parameter, hparameter, hfallback⟩ := List.all_eq_false.mp hfallbacks
      exact ⟨parameter, hparameter, fun haccommodates => hfallback haccommodates.2⟩
  · rw [body_intoCounterpartMember h] at hbody
    exact exists_not_accommodates (provided_eq_broken_iff.mp hbody)
  · cases (body_copyMember h).symm.trans hbody
  · cases (body_factoryMember h).symm.trans hbody

/-- A parameter that the templates have no room for ends the function that makes a host. -/
theorem body_buildMember_of_not_accommodates {parameter : Parameter}
    (hparameter : parameter ∈ host.parameters) (h : ¬ host.Accommodates parameter) :
    host.body host.table host.buildMember = .error .brokenTemplate := by
  refine provided_eq_broken_iff.mpr ?_
  rw [← Bool.not_eq_true, Bool.and_eq_true, hasNames, List.all_eq_true, List.all_eq_true]
  rintro ⟨hnames, hfallbacks⟩
  exact h ⟨hnames parameter hparameter, hfallbacks parameter hparameter⟩

/-- An emission is ended by the declarations, or behind the check for collisions by a parameter
that the bodies have no room for. -/
theorem Numbered.emission_eq_broken_iff (h : host.Numbered) :
    host.emission = .error .brokenTemplate ↔ host.admitsDeclarations = false ∨
      host.checkCollisions host.table = .ok () ∧
        ∃ parameter ∈ host.parameters, ¬ host.Accommodates parameter := by
  have hdeclarations : host.members = .error .brokenTemplate ↔ host.admitsDeclarations = false :=
    provided_eq_broken_iff
  rw [← hdeclarations]
  by_cases hmembers : host.members = .error .brokenTemplate
  · refine ⟨fun _ => .inl hmembers, fun _ => ?_⟩
    rw [emission, hmembers]
    rfl
  · rw [or_iff_right hmembers]
    refine ⟨fun hbroken => ?_, ?_⟩
    · rw [emission_eq_emissionOf hmembers] at hbroken
      cases hcheck : host.checkCollisions host.table with
      | error reason =>
        rw [emissionOf, hcheck] at hbroken
        cases hbroken
        unfold checkCollisions refuse at hcheck
        split at hcheck <;> cases hcheck
      | ok passed =>
        refine ⟨rfl, ?_⟩
        rcases h.emissionOf_table hcheck with ⟨emission, hok⟩ | ⟨-, member, hmember, hkind, hbody⟩
        · cases hok.symm.trans hbroken
        · exact h.exists_not_accommodates_of_body hmember hkind hbody
    · rintro ⟨hcheck, parameter, hparameter, hmisfit⟩
      -- If code were emitted, it would have a body for the function that makes a host.
      rcases h.emissionOf_table hcheck with ⟨emission, hok⟩ | ⟨hbroken, -⟩
      · rw [← emission_eq_emissionOf hmembers] at hok
        obtain ⟨body, hbody, -⟩ := exists_counterpartBody hok host.buildMember_mem_table rfl rfl
        cases (body_buildMember_of_not_accommodates hparameter hmisfit).symm.trans hbody
      · rw [emission_eq_emissionOf hmembers]
        exact hbroken

end Host

/-- The expansion of a struct that passed all checks is ended by a template exactly if a declaration
has no room for a type or a name, or, the names of the counterpart's members being distinct, a body
has no room for the name or the default of a parameter. In particular there is no room for a default
that starts with a block and goes on behind it, other than with a dot or a question mark. -/
theorem template_ends_at_continued_block {item : StructItem} {configuration : Configuration}
    {rename : Option (Located Ident)} {host : Host}
    (hhost : Host.ofStruct item configuration rename = .ok host) :
    (host.emission = .error .brokenTemplate ↔ host.admitsDeclarations = false ∨
      host.checkCollisions host.table = .ok () ∧
        ∃ parameter ∈ host.parameters, ¬ host.Accommodates parameter) ∧
    ∀ parameter expression rest, host.fallbackOf parameter = .value expression →
      Grammar.StartsWithBlock expression.tokens rest → rest ≠ [] →
        Grammar.dotAhead rest = false → Lookahead.operator "?" rest = false →
          ¬ host.Accommodates parameter := by
  refine ⟨(Host.numbered_of_ofStruct hhost).emission_eq_broken_iff, ?_⟩
  intro parameter expression rest hfallback hstarts hrest hdot hquestion haccommodates
  have harm : Host.admitsArm expression = true := by
    have hadmits := haccommodates.2
    rwa [hfallback] at hadmits
  rw [Host.admitsArm_eq_false hstarts hrest hdot hquestion] at harm
  cases harm

namespace Sample

/-- The helper that gives a field the default `{ 1 } - 1`. -/
def differenceDefault : Attribute :=
  .generated ⟨⟨[], [.generated (.plain Attribute.markWord)]⟩,
    .list .parenthesis none none
      (Template.word "default" ++ Template.mark "=" ++ Template.braces [.literal "1" none]
        ++ Template.mark "-" ++ [.literal "1" none])⟩

/-- The sample struct with this default for its only field. -/
def difference : StructItem :=
  { chain with fields := .named [chainField "first" [differenceDefault]] false }

/-- The default, as an expression. -/
def differenceExpression : Tree :=
  let one : Tree := .node (.expression .literal) [.leaf (.literal "1" none)]
  .node (.expression (.binary false))
    [.node (.expression .block) [.node .block [Tree.generatedGroup .brace [.node .statement [one]]]],
      .leaf (.punct '-' false none), one]

/-- The host that this struct is. -/
def differenceHost : Host where
  item := difference.withoutHelpers.constrained
  naming := .ofHost difference.ident .standard none
  parameters := [chainParameter 0 "first" (some differenceExpression)]
  visibility := .everywhere

/-- The struct passes all checks. -/
theorem ofStruct_difference : Host.ofStruct difference .standard none = .ok differenceHost := rfl

end Sample

/-- A template ends the expansion of the sample struct whose default is a difference that starts with
a block. -/
theorem emission_difference : Sample.differenceHost.emission = .error .brokenTemplate := by
  obtain ⟨hbroken, hcontinued⟩ := template_ends_at_continued_block Sample.ofStruct_difference
  have hcheck : Sample.differenceHost.checkCollisions Sample.differenceHost.table = .ok () := rfl
  refine hbroken.mpr (.inr ⟨hcheck, _, List.mem_singleton.mpr rfl, ?_⟩)
  exact hcontinued _ _ [.punct '-' false none, .literal "1" none] rfl .plain (by decide) rfl rfl

/-- A struct whose default is such a difference is read as an item and has no outcome. -/
theorem ofTokens?_difference :
    ((TokenTree.ofSource? "struct A \x7b #[piecemeal(default = \x7b 1 \x7d - 1)] a: i32 \x7d").bind
      fun tokens => (Grammar.read (fun grammar => grammar.item) tokens).toOption.map
        fun item => (Expansion.ofTokens? .standard [] item).isNone) = some true := by
  decide +kernel

end Counterpart
