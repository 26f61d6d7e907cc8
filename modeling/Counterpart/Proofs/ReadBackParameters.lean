import Counterpart.Proofs.ReadBackAttributes

/-!
# Generic parameters that are read back

A generic parameter is read back from its tokens in front of a comma or of the end of its list: its
kind, its name and its punctuation as they are, and its bounds, its type and its default as what
the grammar finds in their tokens. A list of parameters is read back one by one, in the order in
which they are written.
-/

namespace Counterpart

open Counterpart.Parser

/-! ## Parameters that were read -/

namespace GenericParameter

/-- All parts of a parameter. -/
def spelled (parameter : GenericParameter) : List Tree :=
  Attribute.outer parameter.attributes ++ (parameter.keyword ++ parameter.name :: (parameter.colon
    ++ (parameter.bounds ++ parameter.fallback)))

/-- A colon, if there is one. -/
def IsColon (colon : List Tree) : Prop := colon = [] ∨ ∃ region, colon = [single ':' region]

/-- A generic parameter as it is read. -/
inductive IsRead : GenericParameter → Prop
  | lifetime {attributes : List Attribute} {name : Tree} {colon bounds : List Tree}
      (hattributes : ∀ attr ∈ attributes, attr.IsRead) (hname : IsLifetime name)
      (hcolon : IsColon colon) (hbounds : IsSum IsLifetime bounds)
      (hnone : colon = [] → bounds = []) :
    IsRead ⟨.lifetime, attributes, [], name, colon, bounds, []⟩
  | type {attributes : List Attribute} {ident : Located Ident} {colon bounds fallback : List Tree}
      (hattributes : ∀ attr ∈ attributes, attr.IsRead) (hname : ident.value.isName = true)
      (hcolon : IsColon colon) (hnone : colon = [] → bounds = []) :
    IsRead ⟨.type, attributes, [], Tree.name ident, colon, bounds, fallback⟩
  | placeholder {attributes : List Attribute} {region : Option Region}
      (hattributes : ∀ attr ∈ attributes, attr.IsRead) :
    IsRead ⟨.type, attributes, [], Tree.name ⟨.plain "_", region⟩, [], [], []⟩
  | const {attributes : List Attribute} {ident : Located Ident} {place region : Option Region}
      {type : Tree} {fallback : List Tree} (hattributes : ∀ attr ∈ attributes, attr.IsRead)
      (hname : ident.value.isName = true) :
    IsRead ⟨.const, attributes, [.leaf (.word (.plain "const") place)], Tree.name ident,
      [single ':' region], [type], fallback⟩

end GenericParameter

namespace Grammar

variable {grammar : Grammar} {cursor after : Cursor} {parameter : GenericParameter}
  {attributes : List Attribute}

/-- A parameter with the default that may stand behind it. -/
def withFallback (value : Parser Tree) (make : List Tree → GenericParameter) :
    Parser GenericParameter := do
  let equals ← operator? "="
  let fallback ← if equals.isEmpty then pure [] else pure (equals ++ [← value])
  pure (make fallback)

theorem exists_of_withFallback {value : Parser Tree} {make : List Tree → GenericParameter}
    (h : withFallback value make cursor = .ok (parameter, after)) :
    ∃ fallback, parameter = make fallback := by
  obtain ⟨equals, behind, -, h⟩ := exists_of_bind h
  dsimp only at h
  split at h
  · cases h
    exact ⟨[], rfl⟩
  · obtain ⟨tree, behind, -, h⟩ := exists_of_bind h
    cases h
    exact ⟨equals ++ [tree], rfl⟩

theorem isRead_of_lifetimeParameter (hattributes : ∀ attr ∈ attributes, attr.IsRead)
    (h : lifetimeParameter attributes cursor = .ok (parameter, after)) : parameter.IsRead := by
  obtain ⟨name, behind, hname, h⟩ := exists_of_bind h
  obtain ⟨colon, behind, hcolon, h⟩ := exists_of_bind h
  have hmark := exists_of_operator? ':' rfl hcolon
  dsimp only at h
  split at h
  · next hnone =>
    obtain ⟨bounds, same, hpure, h⟩ := exists_of_bind h
    cases hpure
    cases h
    exact .lifetime hattributes (exists_of_lifetime hname) hmark .nil fun _ => rfl
  · next hsome =>
    obtain ⟨bounds, behind, hbounds, h⟩ := exists_of_bind h
    cases h
    exact .lifetime hattributes (exists_of_lifetime hname) hmark
      (isSum_of_sumUntil exists_of_lifetime hbounds) fun hcolon => absurd (by simp [hcolon]) hsome

theorem isRead_of_typeParameter (hattributes : ∀ attr ∈ attributes, attr.IsRead)
    (h : typeParameter grammar attributes cursor = .ok (parameter, after)) : parameter.IsRead := by
  obtain ⟨name, behind, hname, h⟩ := exists_of_bind h
  obtain ⟨ident, rfl, hident⟩ := exists_of_nameLeaf hname
  obtain ⟨colon, behind, hcolon, h⟩ := exists_of_bind h
  have hmark := exists_of_operator? ':' rfl hcolon
  dsimp only at h
  split at h
  · obtain ⟨bounds, same, hpure, h⟩ := exists_of_bind h
    cases hpure
    obtain ⟨fallback, rfl⟩ := exists_of_withFallback h
    exact .type hattributes hident hmark fun _ => rfl
  · next hsome =>
    obtain ⟨bounds, behind, -, h⟩ := exists_of_bind h
    obtain ⟨fallback, rfl⟩ := exists_of_withFallback h
    exact .type hattributes hident hmark fun hcolon => absurd (by simp [hcolon]) hsome

theorem isRead_of_constParameter (hattributes : ∀ attr ∈ attributes, attr.IsRead)
    (h : constParameter grammar attributes cursor = .ok (parameter, after)) : parameter.IsRead := by
  obtain ⟨keyword, behind, hkeyword, h⟩ := exists_of_bind h
  obtain ⟨name, behind, hname, h⟩ := exists_of_bind h
  obtain ⟨ident, rfl, hident⟩ := exists_of_nameLeaf hname
  obtain ⟨colon, behind, hcolon, h⟩ := exists_of_bind h
  obtain ⟨region, rfl⟩ := exists_of_operator ':' rfl hcolon
  obtain ⟨type, behind, -, h⟩ := exists_of_bind h
  obtain ⟨place, rfl⟩ := exists_of_keyword hkeyword
  obtain ⟨fallback, rfl⟩ := exists_of_withFallback h
  exact .const hattributes hident

theorem isRead_of_genericParameter (h : genericParameter grammar cursor = .ok (parameter, after)) :
    parameter.IsRead := by
  obtain ⟨attributes, behind, hattributes, h⟩ := exists_of_bind h
  have hread := isRead_of_outerAttributes hattributes
  obtain ⟨tokens, same, hahead, h⟩ := exists_of_bind h
  cases hahead
  split at h
  · exact isRead_of_lifetimeParameter hread h
  split at h
  · exact isRead_of_typeParameter hread h
  split at h
  · exact isRead_of_constParameter hread h
  split at h
  · next hunderscore =>
    obtain ⟨ident, next, hword, h⟩ := exists_of_bind h
    cases h
    have hident : ident = ⟨.plain "_", ident.region⟩ := by rw [← eq_of_anyWord hunderscore hword]
    rw [hident]
    exact .placeholder hread
  · cases h

/-- The parameters of a list are as they were read. -/
theorem isRead_of_genericParameters {generics : Generics}
    (h : genericParameters grammar cursor = .ok (generics, after)) :
    ∀ parameter ∈ generics.parameters, parameter.IsRead := by
  obtain ⟨isList, same, -, h⟩ := exists_of_bind h
  cases isList with
  | false =>
    cases h
    nofun
  | true =>
    obtain ⟨opening, behind, -, h⟩ := exists_of_bind h
    obtain ⟨tokens, same, -, h⟩ := exists_of_bind h
    obtain ⟨⟨parameters, trailing⟩, behind, hparameters, h⟩ := exists_of_bind h
    obtain ⟨closing, behind, -, h⟩ := exists_of_bind h
    cases h
    intro parameter hparameter
    obtain ⟨before, behind, hread⟩ := exists_of_mem_separatedValues hparameters parameter hparameter
    exact isRead_of_genericParameter hread

/-! ## Parameters that are read back -/

/-- What ends the bounds of a type parameter. -/
def typeBoundEnd (tokens : List TokenTree) : Bool :=
  parameterBoundEnd tokens || Lookahead.operator "=" tokens

/-- What stands behind the colon of a parameter is read back in front of the rest: lifetimes as they
are, bounds and types as what the grammar finds in their tokens. -/
inductive BoundsReadBack (grammar : Grammar) (rest : List TokenTree) :
    GenericKind → List Tree → List Tree → Prop
  | lifetime {bounds : List Tree} : BoundsReadBack grammar rest .lifetime bounds bounds
  | type {bounds answers : List Tree}
      (h : SumReadsBack (grammar.tree (.bound false true)) typeBoundEnd rest bounds answers) :
    BoundsReadBack grammar rest .type bounds answers
  | const {type answer : Tree} (h : Takes grammar.type none type.tokens answer rest) :
    BoundsReadBack grammar rest .const [type] [answer]

/-- What reads the default of a parameter. -/
def fallbackValue (grammar : Grammar) : GenericKind → Parser Tree
  | .const => constantArgument grammar
  | .lifetime | .type => grammar.type

/-- A default is read back in front of the rest as what its parser finds in its tokens. -/
inductive FallbackReadsBack (value : Parser Tree) (rest : List TokenTree) :
    List Tree → List Tree → Prop
  | none : FallbackReadsBack value rest [] []
  | some {region : Option Region} {tree answer : Tree}
      (h : Takes value none tree.tokens answer rest) :
    FallbackReadsBack value rest [single '=' region, tree] [single '=' region, answer]

/-- A parameter is read back in front of the rest: its kind, its name and its punctuation as they
are, and its other parts as what the grammar finds in their tokens. -/
structure ParameterReadsBack (grammar : Grammar) (rest : List TokenTree)
    (before after : GenericParameter) : Prop where
  kind : after.kind = before.kind
  keyword : after.keyword = before.keyword
  name : after.name = before.name
  colon : after.colon = before.colon
  attributes : List.Forall₂ (AttributeReadsBack grammar) before.attributes after.attributes
  bounds : BoundsReadBack grammar (Tree.tokensAll before.fallback ++ rest) before.kind
    before.bounds after.bounds
  fallback : FallbackReadsBack (fallbackValue grammar before.kind) rest
    before.fallback after.fallback

section ReadBack

variable {rest : List TokenTree} {before answer : GenericParameter}

/-- A comma or the end of the list is none of the signs that stand in a parameter. -/
theorem operator_of_parameterBoundEnd (h : parameterBoundEnd rest = true) :
    ∀ text ∈ ["#", ":", "+", "="], Lookahead.operator text rest = false := by
  match rest with
  | .punct character joint region :: others =>
    have hcharacter : character = ',' ∨ character = '>' := by
      simpa [parameterBoundEnd, Lookahead.operator, Lookahead.operatorChars] using h
    rcases hcharacter with rfl | rfl <;> simp [Lookahead.operator, Lookahead.operatorChars]
  | [] | .word _ _ :: _ | .literal _ _ :: _ | .group _ _ _ _ :: _ => cases h

theorem takes_withFallback {value : Parser Tree} {fallback answers : List Tree}
    (make : List Tree → GenericParameter) (h : FallbackReadsBack value rest fallback answers)
    (hrest : parameterBoundEnd rest = true) :
    Takes (withFallback value make) none (Tree.tokensAll fallback) (make answers) rest := by
  cases h with
  | none =>
    have hequals := operator_of_parameterBoundEnd hrest "=" (by simp)
    exact (takes_operator?_none hequals).finish ((takes_pure []).finish (takes_pure _))
  | @some region tree answer h =>
    have hmark : Takes (operator? "=") none [.punct '=' false region] [single '=' region]
        (tree.tokens ++ rest) := rfl
    rw [Tree.tokensAll_cons, Tree.tokensAll_cons, Tree.tokensAll_nil, List.append_nil]
    exact hmark.bind (h.finish ((takes_pure _).finish (takes_pure _)))

/-- A colon is read if it is there, and what may stand behind it does not start with one. -/
theorem takes_colon {colon : List Tree} (h : GenericParameter.IsColon colon)
    (hrest : colon = [] → Lookahead.operator ":" rest = false) :
    Takes (operator? ":") none (Tree.tokensAll colon) colon rest := by
  rcases h with rfl | ⟨region, rfl⟩
  · exact takes_operator?_none (hrest rfl)
  · rfl

theorem takes_lifetimeParameter {name : Tree} {colon bounds : List Tree}
    (attributes : List Attribute) (hname : IsLifetime name)
    (hcolon : GenericParameter.IsColon colon) (hbounds : IsSum IsLifetime bounds)
    (hnone : colon = [] → bounds = []) (hrest : parameterBoundEnd rest = true) :
    Takes (lifetimeParameter attributes) none
      (name.tokens ++ (Tree.tokensAll colon ++ Tree.tokensAll bounds))
      ⟨.lifetime, attributes, [], name, colon, bounds, []⟩ rest := by
  have hsigns := operator_of_parameterBoundEnd hrest
  have hback : SumReadsBack lifetime parameterBoundEnd rest bounds bounds :=
    hbounds.readsBack fun joint region others => rfl
  refine hname.takes.bind ((takes_colon hcolon fun hempty => ?_).bind ?_)
  · rw [hnone hempty]
    exact hsigns ":" (by simp)
  · rcases hcolon with rfl | ⟨region, rfl⟩
    · rw [hnone rfl]
      exact (takes_pure []).bind (takes_pure _)
    · exact (takes_sumUntil hback hrest (hsigns "+" (by simp))).finish (takes_pure _)

/-- Behind the bounds of a type stands a default or what stands behind the parameter. -/
theorem typeBoundEnd_fallback {value : Parser Tree} {fallback answers : List Tree}
    (h : FallbackReadsBack value rest fallback answers) (hrest : parameterBoundEnd rest = true) :
    typeBoundEnd (Tree.tokensAll fallback ++ rest) = true ∧
      Lookahead.operator ":" (Tree.tokensAll fallback ++ rest) = false ∧
      Lookahead.operator "+" (Tree.tokensAll fallback ++ rest) = false := by
  have hsigns := operator_of_parameterBoundEnd hrest
  cases h with
  | none => exact ⟨by simp [typeBoundEnd, hrest], hsigns ":" (by simp), hsigns "+" (by simp)⟩
  | some h => exact ⟨rfl, rfl, rfl⟩

theorem takes_typeParameter {ident : Located Ident}
    {colon bounds bounds' fallback fallback' : List Tree} (attributes : List Attribute)
    (hname : ident.value.isName = true)
    (hcolon : GenericParameter.IsColon colon) (hnone : colon = [] → bounds = [])
    (hbounds : SumReadsBack (grammar.tree (.bound false true)) typeBoundEnd
      (Tree.tokensAll fallback ++ rest) bounds bounds')
    (hfallback : FallbackReadsBack grammar.type rest fallback fallback')
    (hrest : parameterBoundEnd rest = true) :
    Takes (typeParameter grammar attributes) none ([.word ident.value ident.region]
        ++ (Tree.tokensAll colon ++ (Tree.tokensAll bounds ++ Tree.tokensAll fallback)))
      ⟨.type, attributes, [], Tree.name ident, colon, bounds', fallback'⟩ rest := by
  obtain ⟨hend, hcolons, hplus⟩ := typeBoundEnd_fallback hfallback hrest
  have htail (bounds : List Tree) := takes_withFallback (.mk .type attributes []
    (Tree.name ident) colon bounds) hfallback hrest
  refine (takes_nameLeaf hname).bind ((takes_colon hcolon fun hempty => ?_).bind ?_)
  · rw [hnone hempty]
    simpa using hcolons
  · rcases hcolon with rfl | ⟨region, rfl⟩
    · rw [hnone rfl] at hbounds ⊢
      cases hbounds
      exact (takes_pure []).bind (htail [])
    · exact (takes_sumUntil hbounds hend hplus).bind (htail bounds')

theorem takes_constParameter {ident : Located Ident} {type type' : Tree}
    {fallback fallback' : List Tree} (attributes : List Attribute) (place region : Option Region)
    (hname : ident.value.isName = true)
    (htype : Takes grammar.type none type.tokens type' (Tree.tokensAll fallback ++ rest))
    (hfallback : FallbackReadsBack (constantArgument grammar) rest fallback fallback')
    (hrest : parameterBoundEnd rest = true) :
    Takes (constParameter grammar attributes) none ([.word (.plain "const") place]
        ++ ([.word ident.value ident.region] ++ ([.punct ':' false region]
          ++ (type.tokens ++ Tree.tokensAll fallback))))
      ⟨.const, attributes, [.leaf (.word (.plain "const") place)], Tree.name ident,
        [single ':' region], [type'], fallback'⟩ rest := by
  have hcolon : Takes (operator ":") none [.punct ':' false region] [single ':' region]
      (type.tokens ++ Tree.tokensAll fallback ++ rest) := rfl
  exact (takes_keyword rfl place).bind ((takes_nameLeaf hname).bind (hcolon.bind (htype.bind
    (takes_withFallback _ hfallback hrest))))

/-- A parameter that was read is read back in front of a comma or of the end of its list. -/
theorem takes_genericParameter (hread : before.IsRead)
    (h : ParameterReadsBack grammar rest before answer) (hrest : parameterBoundEnd rest = true) :
    Takes (genericParameter grammar) none (Tree.tokensAll before.spelled) answer rest := by
  obtain ⟨kind, attributes, keyword, name, colon, bounds, fallback⟩ := answer
  obtain ⟨hkind, hkeyword, hname, hcolon, hattributes, hbounds, hfallback⟩ := h
  dsimp only at hkind hkeyword hname hcolon hattributes hbounds hfallback
  subst hkind hkeyword hname hcolon
  cases hread with
  | @lifetime before name colon bounds hread hname hcolon hsum hnone =>
    cases hbounds
    cases hfallback
    have htokens : Tree.tokensAll (GenericParameter.spelled
        ⟨.lifetime, before, [], name, colon, bounds, []⟩) =
        Tree.tokensAll (Attribute.outer before)
          ++ (name.tokens ++ (Tree.tokensAll colon ++ Tree.tokensAll bounds)) := by
      simp [GenericParameter.spelled]
    have hparameter := takes_lifetimeParameter attributes hname hcolon hsum hnone hrest
    obtain ⟨joint, region, ident, place, rfl⟩ := hname
    rw [htokens]
    exact (takes_outerAttributes hread hattributes rfl).bind (takes_ahead.look hparameter)
  | @type before ident colon bounds' fallback' hread hname hcolon hnone =>
    cases hbounds with | type hbounds => ?_
    have htokens : Tree.tokensAll (GenericParameter.spelled
        ⟨.type, before, [], Tree.name ident, colon, bounds', fallback'⟩) =
        Tree.tokensAll (Attribute.outer before) ++ ([.word ident.value ident.region]
          ++ (Tree.tokensAll colon ++ (Tree.tokensAll bounds' ++ Tree.tokensAll fallback'))) := by
      simp [GenericParameter.spelled, Tree.name, Tree.tokens]
    have hparameter := takes_typeParameter attributes hname hcolon hnone hbounds
      hfallback hrest
    rw [htokens]
    exact (takes_outerAttributes hread hattributes rfl).bind
      (takes_ahead.look (.ifFalse rfl (.ifTrue hname hparameter)))
  | @placeholder before region hread =>
    cases hbounds with | type hbounds => ?_
    cases hbounds
    cases hfallback
    have htokens : Tree.tokensAll (GenericParameter.spelled
        ⟨.type, before, [], Tree.name ⟨.plain "_", region⟩, [], [], []⟩) =
        Tree.tokensAll (Attribute.outer before) ++ [.word (.plain "_") region] := by
      simp [GenericParameter.spelled, Tree.name, Tree.tokens]
    have hparameter : Takes (anyWord >>= fun ident => pure
        (GenericParameter.mk .type attributes [] (Tree.name ident) [] [] [])) none
        [.word (.plain "_") region] _ rest :=
      (takes_anyWord ⟨.plain "_", region⟩).finish (takes_pure _)
    rw [htokens]
    exact (takes_outerAttributes hread hattributes rfl).bind (takes_ahead.look
      (.ifFalse rfl (.ifFalse rfl (.ifFalse rfl (.ifTrue rfl hparameter)))))
  | @const before ident place region type fallback' hread hname =>
    cases hbounds with | const hbounds => ?_
    have htokens : Tree.tokensAll (GenericParameter.spelled
        ⟨.const, before, [.leaf (.word (.plain "const") place)], Tree.name ident,
          [single ':' region], [type], fallback'⟩) =
        Tree.tokensAll (Attribute.outer before) ++ ([.word (.plain "const") place]
          ++ ([.word ident.value ident.region] ++ ([.punct ':' false region]
            ++ (type.tokens ++ Tree.tokensAll fallback')))) := by
      simp [GenericParameter.spelled, Tree.name, Tree.tokens, single]
    have hparameter := takes_constParameter attributes place region hname hbounds hfallback hrest
    rw [htokens]
    exact (takes_outerAttributes hread hattributes rfl).bind
      (takes_ahead.look (.ifFalse rfl (.ifFalse rfl (.ifTrue rfl hparameter))))

end ReadBack

end Grammar

/-! ## Lists -/

namespace Generics

/-- The comma behind a parameter with others behind it, or behind the last one if it is marked. -/
def commaBehind (trailing : Bool) (others : List GenericParameter) : List TokenTree :=
  if trailing || !others.isEmpty then Template.mark "," else []

/-- The tokens of a list of parameters, all their parts spelled out. -/
def listTokens (trailing : Bool) : List GenericParameter → List TokenTree
  | [] => []
  | first :: others =>
    Tree.tokensAll first.spelled ++ (commaBehind trailing others ++ listTokens trailing others)

end Generics

namespace Grammar

open Generics

/-- A list of parameters is read back one by one, each in front of what stands behind it up to the
end of the list and the rest. -/
inductive ParametersReadBack (grammar : Grammar) (trailing : Bool) (rest : List TokenTree) :
    List GenericParameter → List GenericParameter → Prop
  | nil : ParametersReadBack grammar trailing rest [] []
  | cons {first answer : GenericParameter} {others answers : List GenericParameter}
      (hfirst : ParameterReadsBack grammar
        (commaBehind trailing others ++ (listTokens trailing others ++ (Template.mark ">" ++ rest)))
        first answer)
      (hothers : ParametersReadBack grammar trailing rest others answers) :
    ParametersReadBack grammar trailing rest (first :: others) (answer :: answers)

variable {grammar : Grammar} {trailing : Bool} {rest : List TokenTree}
  {before answers : List GenericParameter}

theorem ParametersReadBack.forall₂ (h : ParametersReadBack grammar trailing rest before answers) :
    List.Forall₂ (fun parameter answer => ∃ behind,
      ParameterReadsBack grammar behind parameter answer) before answers := by
  induction h with
  | nil => exact .nil
  | cons hfirst hothers ih => exact .cons ⟨_, hfirst⟩ ih

/-- No parameter starts where a list ends. -/
theorem not_end_of_isRead {parameter : GenericParameter} (h : parameter.IsRead) :
    Lookahead.operator ">" (Tree.tokensAll parameter.spelled ++ rest) = false := by
  have hattributes : ∀ attr ∈ parameter.attributes, attr.IsRead := by cases h <;> assumption
  obtain ⟨kind, attributes, keyword, name, colon, bounds, fallback⟩ := parameter
  cases attributes with
  | cons attr attributes =>
    obtain ⟨region, hlead⟩ := (hattributes attr List.mem_cons_self).lead
    rw [GenericParameter.spelled, Attribute.outer_eq_map hattributes, List.map_cons, Attribute.tree,
      hlead]
    rfl
  | nil =>
    cases h with
    | lifetime hread hname =>
      obtain ⟨joint, region, ident, place, rfl⟩ := hname
      rfl
    | type | placeholder | const => rfl

theorem takes_separatedValues {fuel : Nat} (hread : ∀ parameter ∈ before, parameter.IsRead)
    (h : ParametersReadBack grammar trailing rest before answers) (hfuel : before.length < fuel) :
    Takes (separatedValues fuel (Lookahead.operator ">") "," (genericParameter grammar)) none
      (listTokens trailing before) (answers, trailing || before.isEmpty)
      (Template.mark ">" ++ rest) := by
  induction h generalizing fuel with
  | nil =>
    obtain ⟨fuel, rfl⟩ : ∃ smaller, fuel = smaller + 1 := Nat.exists_eq_add_one.mpr (by omega)
    rw [List.isEmpty_nil, Bool.or_true]
    exact Takes.whether true rfl (takes_pure _)
  | @cons first answer others answers hfirst hothers ih =>
    obtain ⟨fuel, rfl⟩ : ∃ smaller, fuel = smaller + 1 := Nat.exists_eq_add_one.mpr (by omega)
    obtain ⟨hhead, htail⟩ := List.forall_mem_cons.mp hread
    have hlater := ih htail (by simpa using hfuel)
    have hstarts : Lookahead.operator ">" (Tree.tokensAll first.spelled
        ++ (commaBehind trailing others ++ listTokens trailing others)
        ++ (Template.mark ">" ++ rest)) = false := by
      rw [List.append_assoc]
      exact not_end_of_isRead hhead
    rw [listTokens, List.isEmpty_cons, Bool.or_false]
    cases hcomma : trailing || !others.isEmpty with
    | false =>
      -- Only the last parameter of a list without a comma at its end has none behind it.
      obtain ⟨htrailing, hlast⟩ : trailing = false ∧ others = [] := by simpa using hcomma
      subst htrailing hlast
      cases hothers
      have hparameter := takes_genericParameter hhead hfirst rfl
      exact Takes.whether false hstarts (hparameter.bind (Takes.whether true rfl (takes_pure _)))
    | true =>
      have hbehind : commaBehind trailing others = Template.mark "," := if_pos hcomma
      have htrailing : (trailing || others.isEmpty) = trailing := by
        cases others <;> simp_all
      have hcomma : Takes (operator ",") none (Template.mark ",") (Tree.operator ",")
          (listTokens trailing others ++ (Template.mark ">" ++ rest)) := rfl
      rw [hbehind] at hfirst hstarts ⊢
      have hparameter : Takes (genericParameter grammar) none (Tree.tokensAll first.spelled) answer
          (Template.mark "," ++ listTokens trailing others ++ (Template.mark ">" ++ rest)) :=
        takes_genericParameter hhead hfirst rfl
      rw [htrailing] at hlater
      exact Takes.whether false hstarts (hparameter.bind (Takes.whether false rfl
        (hcomma.bind (hlater.finish (takes_pure _)))))

/-- Every parameter but the last has a comma behind it. -/
theorem length_le_listTokens (trailing : Bool) (parameters : List GenericParameter) :
    parameters.length ≤ (listTokens trailing parameters).length + 1 := by
  induction parameters with
  | nil => simp
  | cons first others ih =>
    cases others with
    | nil => simp
    | cons second others =>
      have hcomma : commaBehind trailing (second :: others) = Template.mark "," := by
        simp [commaBehind]
      have hmark : (Template.mark ",").length = 1 := rfl
      rw [listTokens, hcomma]
      simp only [List.length_append, List.length_cons] at ih ⊢
      omega

/-- A list of parameters that were read is read back in angle brackets. -/
theorem takes_genericParameters (hread : ∀ parameter ∈ before, parameter.IsRead)
    (h : ParametersReadBack grammar trailing rest before answers) :
    Takes (genericParameters grammar) none (Template.angles (listTokens trailing before))
      ⟨answers, trailing || before.isEmpty, []⟩ rest := by
  have hopening : Takes (operator "<") none (Template.mark "<") (Tree.operator "<")
      (listTokens trailing before ++ Template.mark ">" ++ rest) := rfl
  have hclosing : Takes (operator ">") none (Template.mark ">") (Tree.operator ">") rest := rfl
  have hlength := length_le_listTokens trailing before
  have hmark : (Template.mark ">").length = 1 := rfl
  rw [Template.angles, List.append_assoc]
  refine Takes.whether true rfl (hopening.bind (takes_ahead.look
    ((takes_separatedValues hread h ?_).bind (hclosing.finish (takes_pure _)))))
  simp only [List.length_append]
  omega

end Grammar

end Counterpart
