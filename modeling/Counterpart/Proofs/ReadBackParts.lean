import Counterpart.Proofs.ReadBackPaths

/-!
# Types, arguments and bounds that are read back

Each form of a type, of an argument and of a bound is taken if its parts are, with one depth of
recursion less. A type may be followed by all that does not go on with it, an argument by a comma or
by the end of the arguments, and a bound by a further bound or by what stands behind a parameter.
-/

namespace Counterpart

open Counterpart.Parser

namespace Grammar

variable {closing : Option Region} {rest : List TokenTree} {fuel : Nat}

/-! ## Types -/

section Types

variable {sums : Bool} {type : Tree}

/-- A type that is read back, with the given depth of recursion, in front of all that does not go on
with it. -/
structure TypeComesBack (fuel : Nat) (type : Tree) : Prop where
  opens : ∀ ⦃rest : List TokenTree⦄, Lookahead.operator "#" rest = false →
    OpensType (type.tokens ++ rest)
  takes : ∀ ⦃sums : Bool⦄ ⦃closing : Option Region⦄ ⦃rest : List TokenTree⦄,
    Lacks (typeMarks sums) rest →
      Takes (treeWithin fuel (.type sums)) closing type.tokens type rest

theorem takes_inferred {region : Option Region} :
    Takes (treeWithin (fuel + 1) (.type sums)) closing [.word (.plain "_") region]
      (typeNode [.leaf (.word (.plain "_") region)]) rest := by
  have hword : Takes (keyword "_") closing [.word (.plain "_") region]
      [.leaf (.word (.plain "_") region)] rest := rfl
  -- The first token rules out every kind of type that is tried in front of this one.
  exact takes_ahead.look (Takes.look rfl (takes_ahead.look (.ifFalse rfl (.ifFalse rfl (.ifFalse rfl
    (.ifFalse rfl (.ifFalse rfl (.ifFalse rfl (.ifFalse rfl (.ifFalse rfl (.ifFalse rfl
      (.ifFalse rfl (.ifFalse rfl (.ifTrue rfl (hword.finish (takes_pure _))))))))))))))))

theorem takes_never {region : Option Region} :
    Takes (treeWithin (fuel + 1) (.type sums)) closing [.punct '!' false region]
      (typeNode [single '!' region]) rest := by
  have hmark : Takes (operator "!") closing [.punct '!' false region] [single '!' region] rest :=
    rfl
  exact takes_ahead.look (Takes.look rfl (takes_ahead.look (.ifFalse rfl (.ifFalse rfl (.ifFalse rfl
    (.ifFalse rfl (.ifFalse rfl (.ifFalse rfl (.ifFalse rfl (.ifFalse rfl (.ifFalse rfl
      (.ifTrue rfl (hmark.finish (takes_pure _))))))))))))))

theorem takes_reference {lifetime word : List Tree} {region : Option Region}
    (hlifetime : lifetime = [] ∨ ∃ name, IsLifetime name ∧ lifetime = [name])
    (hword : word = [] ∨ ∃ place, word = [.leaf (.word (.plain "mut") place)])
    (h : TypeComesBack fuel type)
    (hrest : Lacks (typeMarks sums) rest) :
    Takes (treeWithin (fuel + 1) (.type sums)) closing ([.punct '&' false region]
        ++ (Tree.tokensAll lifetime ++ (Tree.tokensAll word ++ type.tokens)))
      (typeNode ([single '&' region] ++ lifetime ++ word ++ [type])) rest := by
  have hmark {others : List TokenTree} : Takes (operator "&") closing [.punct '&' false region]
      [single '&' region] others := rfl
  have hopens : OpensType (type.tokens ++ rest) := h.opens (hrest "#" (by simp [typeMarks]))
  have hborrow : Takes lifetime? closing (Tree.tokensAll lifetime) lifetime
      (Tree.tokensAll word ++ type.tokens ++ rest) := by
    rcases hlifetime with rfl | ⟨name, ⟨joint, spot, ident, place, rfl⟩, rfl⟩
    · refine Takes.whether false ?_ (takes_pure [])
      rcases hword with rfl | ⟨place, rfl⟩
      · exact hopens.lifetime
      · rfl
    · rfl
  have hchange :
      Takes (keyword? "mut") closing (Tree.tokensAll word) word (type.tokens ++ rest) := by
    rcases hword with rfl | ⟨place, rfl⟩
    · exact Takes.whether false hopens.changeable (takes_pure [])
    · rfl
  have htarget : Takes (treeWithin fuel (.type false)) closing type.tokens type rest :=
    h.takes (hrest.mono (by simp [typeMarks]))
  exact takes_ahead.look (Takes.look rfl (takes_ahead.look (.ifFalse rfl (.ifFalse rfl (.ifFalse rfl
    (.ifFalse rfl (.ifFalse rfl (.ifFalse rfl (.ifFalse rfl (.ifFalse rfl (.ifTrue rfl
      (hmark.bind (hborrow.bind (hchange.bind (htarget.finish (takes_pure _))))))))))))))))

theorem takes_pointer {word : String} {region place : Option Region}
    (hword : word = "const" ∨ word = "mut") (h : TypeComesBack fuel type)
    (hrest : Lacks (typeMarks sums) rest) :
    Takes (treeWithin (fuel + 1) (.type sums)) closing ([.punct '*' false region]
        ++ ([.word (.plain word) place] ++ type.tokens))
      (typeNode ([single '*' region] ++ [.leaf (.word (.plain word) place)] ++ [type])) rest := by
  have hmark {others : List TokenTree} : Takes (operator "*") closing [.punct '*' false region]
      [single '*' region] others := rfl
  have htarget : Takes (treeWithin fuel (.type false)) closing type.tokens type rest :=
    h.takes (hrest.mono (by simp [typeMarks]))
  have hkeyword {others : List TokenTree} : Takes (keyword word) closing [.word (.plain word) place]
      [.leaf (.word (.plain word) place)] others := takes_keyword (by simp [Ident.isWord_iff]) place
  have hbehind : Takes (treeWithin fuel (.type false) >>= fun target => pure
      (typeNode ([single '*' region] ++ [.leaf (.word (.plain word) place)] ++ [target]))) closing
      type.tokens
      (typeNode ([single '*' region] ++ [.leaf (.word (.plain word) place)] ++ [type])) rest :=
    htarget.finish (takes_pure _)
  refine takes_ahead.look (Takes.look rfl (takes_ahead.look (.ifFalse rfl (.ifFalse rfl
    (.ifFalse rfl (.ifFalse rfl (.ifFalse rfl (.ifFalse rfl (.ifFalse rfl (.ifTrue rfl
      (hmark.bind (takes_ahead.look ?_))))))))))))
  rcases hword with rfl | rfl
  · exact .ifTrue rfl (hkeyword.bind hbehind)
  · exact .ifFalse rfl (.ifTrue rfl (hkeyword.bind hbehind))

/-- What stands in the brackets of a slice or an array. -/
def bracketContent (grammar : Grammar) : Parser (List Tree) := do
  let element ← grammar.type
  if ← looking (Lookahead.operator ";") then
    let mark ← operator ";"
    let length ← grammar.expression
    pure (element :: mark ++ [length])
  else pure [element]

theorem takes_bracketed {content : List Tree} {opening ending : Option Region}
    (h : Takes (bracketContent (within fuel)) ending (Tree.tokensAll content) content []) :
    Takes (treeWithin (fuel + 1) (.type sums)) closing
      [.group .bracket opening ending (Tree.tokensAll content)]
      (typeNode [.group .bracket opening ending content]) rest := by
  have hgroup : Takes (groupOf .bracket (bracketContent (within fuel))) closing
      [.group .bracket opening ending (Tree.tokensAll content)]
      (.group .bracket opening ending content) rest := (takes_inside h).finish (takes_pure _)
  exact takes_ahead.look (Takes.look rfl (takes_ahead.look (.ifFalse rfl (.ifFalse rfl (.ifFalse rfl
    (.ifFalse rfl (.ifFalse rfl (.ifFalse rfl (.ifTrue rfl (hgroup.finish (takes_pure _)))))))))))

theorem takes_slice {opening ending : Option Region} (h : TypeComesBack fuel type) :
    Takes (treeWithin (fuel + 1) (.type sums)) closing
      [.group .bracket opening ending (Tree.tokensAll [type])]
      (typeNode [.group .bracket opening ending [type]]) rest := by
  have helement : Takes (within fuel).type ending type.tokens type [] :=
    h.takes (lacks_nil rfl)
  refine takes_bracketed ?_
  rw [Tree.tokensAll_cons, Tree.tokensAll_nil, List.append_nil]
  exact helement.finish (Takes.whether false rfl (takes_pure _))

/-- A name is read as an expression at the end of its group. -/
theorem takes_nameAtom {grammar : Grammar} {ident : Located Ident}
    (hname : ident.value.isName = true) :
    Takes (atom grammar true) closing [.word ident.value ident.region] (nameExpression ident)
      [] := by
  have hkeyword (word : String) (hword : word ∈ Ident.keywords) :
      Lookahead.keyword word [.word ident.value ident.region] = false :=
    Ident.isWord_of_isName hname hword
  have hliteral : Lookahead.literal ([.word ident.value ident.region] ++ []) = false := by
    have htrue : ident.value.isWord "true" = false := Ident.isWord_of_isName hname (by decide)
    have hfalse : ident.value.isWord "false" = false := Ident.isWord_of_isName hname (by decide)
    simp [Lookahead.literal, htrue, hfalse]
  have hclosure : closureAhead ([.word ident.value ident.region] ++ []) = false := by
    simp [closureAhead, binderAhead, hkeyword "move" (by decide), hkeyword "for" (by decide),
      hkeyword "const" (by decide), hkeyword "static" (by decide), hkeyword "async" (by decide)]
    rfl
  have hsegment : Takes (pathSegment grammar true) closing [.word ident.value ident.region]
      (.node .segment [Tree.name ident]) [] := by
    refine takes_ahead.look (.ifFalse (keywords_of_isName hname (by decide))
      (.ifFalse (hkeyword "Self" (by decide)) ?_))
    exact (takes_name hname).finish (takes_ahead.look (.ifFalse rfl (takes_pure _)))
  have hmany (parser : Parser (List Tree)) : Takes (many furtherSegment parser) closing [] [] [] :=
    takes_ahead.look (Takes.whether false rfl (takes_pure []))
  have hpath : Takes (qualifiedPath grammar true) closing [.word ident.value ident.region]
      (Tree.pathOfName ident) [] :=
    Takes.whether false rfl (Takes.look (takes_operator?_none rfl)
      (hsegment.finish ((hmany _).finish (takes_pure _))))
  have hcall : macroFollows (Tree.pathOfName ident) [] = false := by
    simp [macroFollows, Lookahead.operator, Lookahead.operatorChars]
  have hexpression : Takes (pathExpression grammar true) closing [.word ident.value ident.region]
      (nameExpression ident) [] :=
    hpath.finish (takes_ahead.look (.ifFalse hcall (.ifFalse rfl (takes_pure _))))
  have hahead : Lookahead.name ([.word ident.value ident.region] ++ []) = true := hname
  have hother (word : String) (hword : word ∈ Ident.keywords) (test : Bool) :
      (Lookahead.keyword word ([.word ident.value ident.region] ++ []) && test) = false := by
    rw [List.append_nil, hkeyword word hword, Bool.false_and]
  refine takes_ahead.look (.ifFalse hliteral (.ifFalse (hother "async" (by decide) _)
    (.ifFalse (hother "try" (by decide) _) (.ifFalse hclosure (.ifFalse (Bool.and_false _)
      (.ifTrue ?_ hexpression))))))
  rw [hahead]
  rfl

/-- The length of an array is read back at the end of its brackets. -/
theorem takes_length {length : Tree} (h : IsLength length) :
    Takes (within (fuel + 3)).expression closing length.tokens length [] := by
  cases h with
  | literal => rfl
  | @name ident hname =>
    have htrailers : Takes (treeWithin (fuel + 1) (.trailers (nameExpression ident))) closing []
        (nameExpression ident) [] := rfl
    have houter : Takes (outerTrees (within (fuel + 1))) closing [] []
        ([.word ident.value ident.region] ++ []) := rfl
    have hunary : Takes (treeWithin (fuel + 2) (.unary true)) closing
        [.word ident.value ident.region] (nameExpression ident) [] := by
      refine takes_ahead.look
        (Takes.look houter (takes_ahead.look (.ifFalse rfl (.ifFalse rfl ?_))))
      exact (takes_nameAtom hname).finish (htrailers.finish (takes_pure _))
    have hoperators : Takes (treeWithin (fuel + 2)
        (.operators true .jump (nameExpression ident))) closing [] (nameExpression ident) [] := rfl
    exact hunary.finish hoperators

theorem takes_array {length : Tree} {opening region ending : Option Region}
    (h : TypeComesBack (fuel + 3) type) (hlength : IsLength length) :
    Takes (treeWithin (fuel + 4) (.type sums)) closing
      [.group .bracket opening ending (Tree.tokensAll [type, single ';' region, length])]
      (typeNode [.group .bracket opening ending [type, single ';' region, length]]) rest := by
  have hmark {others : List TokenTree} : Takes (operator ";") ending [.punct ';' false region]
      [single ';' region] others := rfl
  have helement : Takes (within (fuel + 3)).type ending type.tokens type
      ([.punct ';' false region] ++ length.tokens ++ []) := h.takes (lacks_punct rfl)
  have htokens : Tree.tokensAll [type, single ';' region, length] =
      type.tokens ++ ([.punct ';' false region] ++ length.tokens) := by
    simp [single, Tree.tokens]
  refine takes_bracketed ?_
  rw [htokens]
  exact helement.bind (Takes.whether true rfl (hmark.bind
    ((takes_length hlength).finish (takes_pure _))))

/-! ## Lists of types -/

variable {elements : List (Tree × List Tree)}

theorem takes_typeList (hcommas : Separated elements)
    (helements : ∀ entry ∈ elements, TypeComesBack fuel entry.1) :
    Takes (commaList do return [← (within fuel).type]) closing (Tree.tokensAll (written elements))
      (written elements) [] := by
  refine takes_ahead.look (takes_separatedPieces hcommas ?_ (fun _ _ => rfl) rfl ?_)
  · intro entry hentry behind hbehind
    have hend : Lacks (typeMarks true) behind := by
      rcases hbehind with rfl | ⟨region, others, rfl⟩
      · exact lacks_nil rfl
      · exact lacks_punct rfl
    have htype := helements entry hentry
    exact ⟨(htype.takes hend).map fun tree => [tree], (htype.opens (hend "#" (by decide))).some⟩
  · rw [List.append_nil]
    exact hcommas.length_le

/-- What stands in the parentheses of a type, and the form of it. -/
def parenthesisContent (grammar : Grammar) : Parser (List Tree × Nat) := do
  let tokens ← ahead
  if tokens.isEmpty then return ([], 0)
  if Lookahead.lifetime tokens then
    let bounds ← objectBounds grammar [] true false false objectRule
    return ([typeNode bounds], 0)
  if Lookahead.operator "?" tokens then
    let (parts, _) ← traitBound grammar false
    return (parts, 1)
  let first ← grammar.type
  if ← looking (Lookahead.operator ",") then
    let comma ← operator ","
    let rest ← commaList do return [← grammar.type]
    return (first :: comma ++ rest, 0)
  return ([first], 2)

/-- A single type without a comma. -/
theorem takes_singleContent (h : TypeComesBack fuel type) :
    Takes (parenthesisContent (within fuel)) closing type.tokens ([type], 2) [] := by
  have hopens : OpensType (type.tokens ++ []) := h.opens rfl
  have htype : Takes (within fuel).type closing type.tokens type [] :=
    h.takes (lacks_nil rfl)
  exact takes_ahead.look (.ifFalse hopens.some (.ifFalse hopens.lifetime
    (.ifFalse hopens.optional (htype.finish (Takes.whether false rfl (takes_pure _))))))

/-- Types with a comma behind the first. -/
theorem takes_listContent {region : Option Region} (hcommas : Separated elements)
    (h : TypeComesBack fuel type) (helements : ∀ entry ∈ elements, TypeComesBack fuel entry.1) :
    Takes (parenthesisContent (within fuel)) closing
      (type.tokens ++ ([.punct ',' false region] ++ Tree.tokensAll (written elements)))
      (written ((type, [single ',' region]) :: elements), 0) [] := by
  have hopens : OpensType (type.tokens
      ++ (.punct ',' false region :: (Tree.tokensAll (written elements) ++ []))) := h.opens rfl
  rw [← List.cons_append, ← List.append_assoc] at hopens
  have htype : Takes (within fuel).type closing type.tokens type
      ([.punct ',' false region] ++ Tree.tokensAll (written elements) ++ []) :=
    h.takes (lacks_punct rfl)
  have hmark : Takes (operator ",") closing [.punct ',' false region] [single ',' region]
      (Tree.tokensAll (written elements) ++ []) := takes_operator rfl (by decide) region
  exact takes_ahead.look (.ifFalse hopens.some (.ifFalse hopens.lifetime
    (.ifFalse hopens.optional (htype.bind (Takes.whether true rfl (hmark.bind
      ((takes_typeList hcommas helements).finish (takes_pure _))))))))

theorem takes_tuple {opening ending : Option Region} (hcommas : Separated elements)
    (helements : ∀ entry ∈ elements, TypeComesBack fuel entry.1)
    (hrest : Lacks (typeMarks sums) rest) :
    Takes (treeWithin (fuel + 1) (.type sums)) closing
      [.group .parenthesis opening ending (Tree.tokensAll (written elements))]
      (typeNode [.group .parenthesis opening ending (written elements)]) rest := by
  have hrule {answer : ParenthesisedType}
      (hanswer :
        answer = .complete (typeNode [.group .parenthesis opening ending (written elements)]) ∨
          ∃ inner, answer = .single inner (.group .parenthesis opening ending (written elements)))
      (hcontent : Takes (parenthesisedType (within fuel)) closing
        [.group .parenthesis opening ending (Tree.tokensAll (written elements))] answer rest) :
      Takes (treeWithin (fuel + 1) (.type sums)) closing
        [.group .parenthesis opening ending (Tree.tokensAll (written elements))]
        (typeNode [.group .parenthesis opening ending (written elements)]) rest := by
    refine takes_ahead.look (Takes.look rfl (takes_ahead.look (.ifFalse rfl (.ifFalse rfl
      (.ifTrue rfl (hcontent.finish ?_))))))
    rcases hanswer with rfl | ⟨inner, rfl⟩
    · exact takes_pure _
    · dsimp only
      cases firstBound? inner (.group .parenthesis opening ending (written elements)) with
      | none => exact takes_pure _
      | some first =>
        refine Takes.whether _ rfl (.ifFalse ?_ (takes_pure _))
        cases sums with
        | false => rfl
        | true => exact hrest "+" (by decide)
  cases hcommas with
  | nil => exact hrule (.inl rfl) rfl
  | @last piece =>
    have hinside : Takes (inside .parenthesis (parenthesisContent (within fuel))) closing
        [.group .parenthesis opening ending piece.tokens] (([piece], 2), opening, ending) rest :=
      takes_inside (takes_singleContent (helements _ List.mem_cons_self))
    refine hrule (.inr ⟨piece, rfl⟩) ?_
    rw [tokensAll_written_last]
    exact hinside.finish (takes_pure _)
  | @more piece region pieces hpieces =>
    obtain ⟨hhead, htail⟩ := List.forall_mem_cons.mp helements
    have hinside : Takes (inside .parenthesis (parenthesisContent (within fuel))) closing
        [.group .parenthesis opening ending
          (piece.tokens ++ ([.punct ',' false region] ++ Tree.tokensAll (written pieces)))]
        ((written ((piece, [single ',' region]) :: pieces), 0), opening, ending) rest :=
      takes_inside (takes_listContent hpieces hhead htail)
    refine hrule (.inl rfl) ?_
    rw [tokensAll_written_more]
    exact hinside.finish (takes_pure _)

/-! ## Arguments -/

theorem takes_lifetimeArgument {grammar : Grammar} {tree : Tree} (h : IsLifetime tree)
    (hrest : parameterBoundEnd rest = true) :
    Takes (pathArgument grammar) closing tree.tokens tree rest := by
  obtain ⟨joint, region, ident, place, rfl⟩ := h
  have hplus := operator_of_parameterBoundEnd hrest "+" (by simp)
  refine takes_ahead.look (.ifTrue ?_ (takes_lifetime joint region place ident))
  rw [Bool.and_eq_true, Bool.not_eq_true']
  exact ⟨rfl, hplus⟩

theorem takes_typeArgument (h : TypeComesBack fuel type) (hrest : parameterBoundEnd rest = true) :
    Takes (pathArgument (within fuel)) closing type.tokens type rest := by
  have hsigns := operator_of_parameterBoundEnd hrest
  have hopens := h.opens (hsigns "#" (by simp))
  have htype : Takes (within fuel).type closing type.tokens type rest :=
    h.takes (lacks_of_boundEnd hrest)
  refine takes_ahead.look (.ifFalse ?_ (.ifFalse ?_ (htype.finish ?_)))
  · rw [hopens.lifetime, Bool.false_and]
  · rw [hopens.literal, hopens.brace]
    rfl
  · cases plainSegment? type with
    | none => exact takes_pure _
    | some segment =>
      exact Takes.whether false (hsigns "=" (by simp))
        (Takes.whether false (hsigns ":" (by simp)) (takes_pure _))

theorem takes_literal {leaves : List Tree} (h : IsLiteral leaves) :
    Lookahead.literal (Tree.tokensAll leaves ++ rest) = true ∧
      Takes literal closing (Tree.tokensAll leaves) leaves rest := by
  cases h with
  | token => exact ⟨rfl, rfl⟩
  | truth hword => rcases hword with rfl | rfl <;> exact ⟨rfl, rfl⟩
  | @negative text region place hkind =>
    have hnumber : Lookahead.literal
        (.punct '-' false region :: .literal text place :: rest) = true := by
      simpa [Lookahead.literal] using hkind
    refine ⟨hnumber, ?_⟩
    change literal ⟨.punct '-' false region :: .literal text place :: rest, closing, none⟩ = _
    rw [literal, if_pos hnumber]
    rfl

theorem takes_constantArgument {grammar : Grammar} {constant : Tree} (h : IsConstant constant) :
    Takes (constantArgument grammar) closing constant.tokens constant rest := by
  cases h with
  | @literal leaves hleaves =>
    obtain ⟨hahead, hliteral⟩ := @takes_literal closing rest leaves hleaves
    exact takes_ahead.look (.ifTrue hahead (hliteral.map literalExpression))
  | @name ident hname =>
    have hliteral : Lookahead.literal ([.word ident.value ident.region] ++ rest) = false := by
      have htrue : ident.value.isWord "true" = false := Ident.isWord_of_isName hname (by decide)
      have hfalse : ident.value.isWord "false" = false := Ident.isWord_of_isName hname (by decide)
      simp [Lookahead.literal, htrue, hfalse]
    exact takes_ahead.look (.ifFalse hliteral (.ifTrue hname
      ((takes_name hname).finish (takes_pure _))))

theorem takes_literalArgument {grammar : Grammar} {leaves : List Tree} (h : IsLiteral leaves) :
    Takes (pathArgument grammar) closing (Tree.tokensAll leaves) (literalExpression leaves)
      rest := by
  obtain ⟨hahead, -⟩ := @takes_literal closing rest leaves h
  refine takes_ahead.look (.ifFalse ?_ (.ifTrue ?_ (takes_constantArgument (.literal h))))
  · cases h <;> rfl
  · rw [hahead, Bool.true_or]

theorem takes_equality {ident : Located Ident} {region : Option Region}
    (hname : ident.value.isName = true) (h : TypeComesBack (fuel + 1) type)
    (hrest : parameterBoundEnd rest = true) :
    Takes (pathArgument (within (fuel + 1))) closing ([.word ident.value ident.region]
        ++ ([.punct '=' false region] ++ type.tokens))
      (.node .phrase [Tree.name ident, single '=' region, type]) rest := by
  have hopens := h.opens (operator_of_parameterBoundEnd hrest "#" (by simp))
  have hfirst : Takes (within (fuel + 1)).type closing [.word ident.value ident.region]
      (nameType (Tree.name ident)) ([.punct '=' false region] ++ type.tokens ++ rest) := by
    refine takes_nameType (.inl hname) ?_
    exact lacks_punct rfl
  have hmark : Takes (operator "=") closing [.punct '=' false region] [single '=' region]
      (type.tokens ++ rest) := rfl
  have htype : Takes (within (fuel + 1)).type closing type.tokens type rest :=
    h.takes (lacks_of_boundEnd hrest)
  have hsegment : OpensType ([.word ident.value ident.region]
      ++ ([.punct '=' false region] ++ type.tokens) ++ rest) :=
    opensType_of_word (Ident.isSegment_of_isName hname)
  rw [nameType_of_isName hname] at hfirst
  refine takes_ahead.look (.ifFalse rfl (.ifFalse ?_ (hfirst.bind (Takes.whether true rfl
    (hmark.bind (takes_ahead.look (.ifFalse ?_ (htype.finish (takes_pure _)))))))))
  · rw [hsegment.literal, hsegment.brace]
    rfl
  · rw [hopens.literal, hopens.brace]
    rfl

end Types

/-! ## Bounds -/

/-- What may stand behind a bound: nothing that a path, its arguments in parentheses or their result
goes on with. -/
structure EndsBound (rest : List TokenTree) : Prop where
  marks : Lacks ["<", "::", "!", "#", "->"] rest
  group : Lookahead.group .parenthesis rest = false

/-- A path that is read back in front of all that does not go on with it. -/
structure PathComesBack (grammar : Grammar) (tree : Tree) : Prop where
  opens : ∀ ⦃rest : List TokenTree⦄, Lookahead.operator "#" rest = false →
    OpensPath (tree.tokens ++ rest)
  takes : ∀ ⦃closing : Option Region⦄ ⦃rest : List TokenTree⦄, Lacks ["<", "::"] rest →
    Takes (path grammar false) closing tree.tokens tree rest

section Bounds

variable {inputs : List (Tree × List Tree)} {opening ending : Option Region}

theorem takes_callInputs (hcommas : Separated inputs)
    (hinputs : ∀ entry ∈ inputs, TypeComesBack fuel entry.1) :
    Takes (groupOf .parenthesis (commaList do return [← (within fuel).type])) closing
      [.group .parenthesis opening ending (Tree.tokensAll (written inputs))]
      (.group .parenthesis opening ending (written inputs)) rest :=
  (takes_inside (takes_typeList hcommas hinputs)).finish (takes_pure _)

theorem takes_call (hcommas : Separated inputs)
    (hinputs : ∀ entry ∈ inputs, TypeComesBack fuel entry.1) (hrest : EndsBound rest) :
    Takes (callArguments (within fuel)) closing
      [.group .parenthesis opening ending (Tree.tokensAll (written inputs))]
      (.node .phrase [.group .parenthesis opening ending (written inputs)]) rest := by
  have houtput : Takes (returnType (within fuel) false) closing [] [] rest :=
    Takes.whether false (hrest.marks "->" (by simp)) (takes_pure [])
  exact (takes_callInputs hcommas hinputs).finish (houtput.finish (takes_pure _))

theorem takes_callOutput {type : Tree} {region place : Option Region} (hcommas : Separated inputs)
    (hinputs : ∀ entry ∈ inputs, TypeComesBack fuel entry.1) (htype : TypeComesBack fuel type)
    (hrest : EndsBound rest) :
    Takes (callArguments (within fuel)) closing
      ([.group .parenthesis opening ending (Tree.tokensAll (written inputs))]
        ++ ([.punct '-' true region, .punct '>' false place] ++ type.tokens))
      (.node .phrase (.group .parenthesis opening ending (written inputs)
        :: (double '-' '>' region place ++ [type]))) rest := by
  have hmark {others : List TokenTree} : Takes (operator "->") closing
      [.punct '-' true region, .punct '>' false place] (double '-' '>' region place) others := rfl
  have hresult : Takes (treeWithin fuel (.type false)) closing type.tokens type rest :=
    htype.takes (hrest.marks.mono (by simp [typeMarks]))
  have houtput : Takes (returnType (within fuel) false) closing
      ([.punct '-' true region, .punct '>' false place] ++ type.tokens)
      (double '-' '>' region place ++ [type]) rest :=
    Takes.whether true rfl (hmark.bind (hresult.finish (takes_pure _)))
  exact (takes_callInputs hcommas hinputs).bind (houtput.finish (takes_pure _))

/-- A path without arguments in parentheses behind it. -/
theorem takes_withoutCall {grammar : Grammar} {path : Tree} (hrest : EndsBound rest) :
    Takes (withCallArguments grammar path) closing [] path rest := by
  refine takes_ahead.look (.ifFalse ?_ (takes_pure path))
  simp [hrest.group, hrest.marks "::"]

/-- The arguments behind a path become those of its last segment. -/
theorem takes_withCall {grammar : Grammar} {front : List Tree} {name call : Tree}
    {content others : List TokenTree}
    (hcall : Takes (callArguments grammar) closing
      (.group .parenthesis opening ending content :: others) call rest) :
    Takes (withCallArguments grammar (.node .path (front ++ [.node .segment [name]]))) closing
      (.group .parenthesis opening ending content :: others)
      (.node .path (front ++ [.node .segment [name, call]])) rest := by
  have hlacks :
      Tree.lacksLastArguments (.node .path (front ++ [.node .segment [name]])) = true := by
    simp [Tree.lacksLastArguments]
  have hgiven : Tree.withLastArguments (.node .path (front ++ [.node .segment [name]])) call =
      .node .path (front ++ [.node .segment [name, call]]) := by
    simp [Tree.withLastArguments]
  refine takes_ahead.look (.ifTrue ?_ (Takes.look (takes_operator?_none rfl) (hcall.finish ?_)))
  · rw [hlacks]
    rfl
  · rw [hgiven]
    exact takes_pure _

/-- The mark of a constant trait does not stand where a path does. -/
theorem takes_constantMark {constants : Bool} (hopens : OpensPath rest) :
    Takes (constantMark constants) closing [] [] rest :=
  takes_ahead.look (.ifFalse (hopens.not_group _)
    (.ifFalse (hopens.not_keyword "const" rfl) (takes_pure [])))

theorem OpensPath.not_optional {tokens : List TokenTree} (h : OpensPath tokens) :
    Lookahead.operator "?" tokens = false := by
  cases h <;> rfl

theorem takes_introducedLifetime {grammar : Grammar} {tree : Tree} (h : IsLifetime tree)
    (hrest : parameterBoundEnd rest = true) :
    Takes (introducedParameter grammar) closing tree.tokens
      ⟨.lifetime, [], [], tree, [], [], []⟩ rest := by
  obtain ⟨joint, region, ident, place, rfl⟩ := h
  have hname := @takes_lifetime closing rest joint region place ident
  have hcolon : Takes (operator? ":") closing [] [] rest :=
    takes_operator?_none (operator_of_parameterBoundEnd hrest ":" (by simp))
  have hattributes : Takes (outerAttributes grammar) closing [] []
      ([.punct '\'' joint region, .word ident place] ++ rest) := rfl
  exact Takes.look hattributes (takes_ahead.look (.ifFalse rfl (.ifTrue rfl
    (hname.finish (hcolon.finish ((takes_pure []).finish (takes_pure _)))))))

theorem Separated.map {pieces : List (Tree × List Tree)} (h : Separated pieces)
    (change : Tree → Tree) : Separated (pieces.map fun entry => (change entry.1, entry.2)) := by
  induction h with
  | nil => exact .nil
  | last => exact .last
  | more hpieces ih => exact .more ih

/-- The lifetimes that a bound introduces. -/
theorem takes_binder {grammar : Grammar} {lifetimes : List (Tree × List Tree)}
    {place : Option Region} (hlifetimes : ∀ entry ∈ lifetimes, IsLifetime entry.1)
    (hcommas : Separated lifetimes) :
    Takes (binder grammar) closing
      (Tree.tokensAll (introducedLifetimes lifetimes place opening ending))
      (introducedLifetimes lifetimes place opening ending) rest := by
  have htokens : Tree.tokensAll (introducedLifetimes lifetimes place opening ending) =
      [.word (.plain "for") place] ++ ([.punct '<' false opening]
        ++ (Tree.tokensAll (written (lifetimes.map fun entry => (.node .phrase [entry.1], entry.2)))
          ++ [.punct '>' false ending])) := by
    simp [introducedLifetimes, single, Tree.tokens]
  have hword {others : List TokenTree} : Takes (keyword "for") closing [.word (.plain "for") place]
      [.leaf (.word (.plain "for") place)] others := rfl
  have hopening {others : List TokenTree} : Takes (operator "<") closing
      [.punct '<' false opening] [single '<' opening] others := rfl
  have hending : Takes (operator ">") closing [.punct '>' false ending] [single '>' ending] rest :=
    rfl
  have hlist : Takes (separatedUntil (Lookahead.operator ">") "," do
        let parameter ← introducedParameter grammar
        pure [.node .phrase parameter.trees]) closing
      (Tree.tokensAll (written (lifetimes.map fun entry => (.node .phrase [entry.1], entry.2))))
      (written (lifetimes.map fun entry => (.node .phrase [entry.1], entry.2)))
      (.punct '>' false ending :: rest) := by
    have hpieces := hcommas.map fun lifetime => .node .phrase [lifetime]
    refine takes_ahead.look (takes_separatedPieces hpieces ?_ (fun _ _ => rfl) rfl ?_)
    · refine List.forall_mem_map.mpr fun entry hentry behind hbehind => ?_
      have hend : parameterBoundEnd behind = true := by
        rcases hbehind with rfl | ⟨region, others, rfl⟩ <;> rfl
      have hlifetime := hlifetimes entry hentry
      have htokens : (Tree.node .phrase [entry.1]).tokens = entry.1.tokens := by
        simp [Tree.tokens]
      dsimp only
      rw [htokens]
      refine ⟨(takes_introducedLifetime hlifetime hend).finish (takes_pure _), ?_⟩
      obtain ⟨joint, region, ident, spot, hlifetime⟩ := hlifetime
      rw [hlifetime]
      rfl
    · have hlength := hpieces.length_le
      simp only [List.length_append]
      omega
  rw [htokens]
  exact hword.bind (hopening.bind (hlist.bind (hending.finish (takes_pure _))))

/-- A trait behind its modifier, with or without arguments in parentheses. -/
theorem takes_traitBound {grammar : Grammar} {constants : Bool} {modifier : List Tree}
    {middle tree : Tree} {first second : List TokenTree} (hmodifier : IsModifier modifier)
    (hopens : OpensPath (first ++ second ++ rest))
    (hpath : Takes (path grammar false) closing first middle (second ++ rest))
    (hcall : Takes (withCallArguments grammar middle) closing second tree rest) :
    Takes (traitBound grammar constants) closing (Tree.tokensAll modifier ++ (first ++ second))
      (modifier ++ [tree], false) rest := by
  have hmark := @takes_constantMark closing _ constants hopens
  have hbinder : Takes (binder? grammar) closing [] [] (first ++ second ++ rest) :=
    Takes.whether false (hopens.not_keyword "for" rfl) (takes_pure [])
  have hoptional : Takes (operator? "?") closing [] [] (first ++ second ++ rest) :=
    takes_operator?_none hopens.not_optional
  cases hmodifier with
  | none =>
    exact Takes.look hbinder (Takes.look hmark (Takes.look hoptional (Takes.look (takes_pure [])
      (hpath.bind (hcall.finish (takes_pure _))))))
  | @optional region =>
    have hsign : Takes (operator? "?") closing [.punct '?' false region] [single '?' region]
        (first ++ second ++ rest) := rfl
    exact Takes.look rfl (Takes.look rfl (hsign.bind (Takes.look hbinder
      (hpath.bind (hcall.finish (takes_pure _))))))
  | @binder lifetimes place opening ending hlifetimes hcommas =>
    have hintroduced : Takes (binder? grammar) closing
        (Tree.tokensAll (introducedLifetimes lifetimes place opening ending))
        (introducedLifetimes lifetimes place opening ending) (first ++ second ++ rest) :=
      Takes.whether true rfl (takes_binder hlifetimes hcommas)
    refine hintroduced.bind (Takes.look hmark (Takes.look hoptional (Takes.look (takes_pure [])
      (hpath.bind (hcall.finish ?_)))))
    simp only [List.append_nil]
    exact .ifFalse rfl (takes_pure _)

/-- A trait is read as a bound. -/
theorem takes_traitRule {captures constants : Bool} {modifier : List Tree}
    {tree : Tree} {tokens : List TokenTree} (hmodifier : IsModifier modifier)
    (hopens : OpensPath (tokens ++ rest))
    (htrait : Takes (traitBound (within fuel) constants) closing (Tree.tokensAll modifier ++ tokens)
      (modifier ++ [tree], false) rest) :
    Takes (treeWithin (fuel + 1) (.bound captures constants)) closing
      (Tree.tokensAll modifier ++ tokens) (.node .phrase (modifier ++ [tree])) rest := by
  have hlifetime : Lookahead.lifetime (Tree.tokensAll modifier ++ tokens ++ rest) = false := by
    cases hmodifier with
    | none => exact hopens.opensType.lifetime
    | optional => rfl
    | binder => rfl
  have huse : Lookahead.keyword "use" (Tree.tokensAll modifier ++ tokens ++ rest) = false := by
    cases hmodifier with
    | none => exact hopens.not_keyword "use" rfl
    | optional => rfl
    | binder => rfl
  have hgroup :
      Lookahead.group .parenthesis (Tree.tokensAll modifier ++ tokens ++ rest) = false := by
    cases hmodifier with
    | none => exact hopens.not_group _
    | optional => rfl
    | binder => rfl
  exact takes_ahead.look (.ifFalse hlifetime (.ifFalse huse (.ifFalse hgroup
    (htrait.finish (takes_pure _)))))

end Bounds

/-- An argument that is read back in front of a comma or of the end of the arguments. -/
structure ArgumentComesBack (grammar : Grammar) (tree : Tree) : Prop where
  opens : ∀ ⦃rest : List TokenTree⦄, parameterBoundEnd rest = true →
    Lookahead.operator ">" (tree.tokens ++ rest) = false
  takes : ∀ ⦃closing : Option Region⦄ ⦃rest : List TokenTree⦄, parameterBoundEnd rest = true →
    Takes (pathArgument grammar) closing tree.tokens tree rest

/-- Arguments in parentheses that are read back with their result. -/
structure CallComesBack (grammar : Grammar) (tree : Tree) : Prop where
  opens : ∃ opening ending content others,
    tree.tokens = .group .parenthesis opening ending content :: others
  takes : ∀ ⦃closing : Option Region⦄ ⦃rest : List TokenTree⦄, EndsBound rest →
    Takes (callArguments grammar) closing tree.tokens tree rest

/-- A bound that is read back in front of all that does not go on with it. -/
structure BoundComesBack (fuel : Nat) (tree : Tree) : Prop where
  opens : ∀ ⦃rest : List TokenTree⦄, Lookahead.operator "#" rest = false →
    typeBoundEnd (tree.tokens ++ rest) = false
  takes : ∀ ⦃captures constants : Bool⦄ ⦃closing : Option Region⦄ ⦃rest : List TokenTree⦄,
    EndsBound rest →
      Takes (treeWithin fuel (.bound captures constants)) closing tree.tokens tree rest

end Grammar

end Counterpart
