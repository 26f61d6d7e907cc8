import Counterpart.Proofs.ReadBackParsers

/-!
# Types that are read as they were generated

The names of generic parameters stand in generated types: as arguments, and as what a function takes
and returns. Such a type is read as the tree that it was generated for, with a depth of recursion
that is the same for all names.
-/

namespace Counterpart

open Counterpart.Parser

/-- A word that names something is none of the words that the grammar keeps for itself. -/
theorem Ident.isWord_of_isName {ident : Ident} (h : ident.isName = true) {word : String}
    (hword : word ∈ keywords) : ident.isWord word = false := by
  rw [Bool.eq_false_iff]
  intro hplain
  rw [isWord_iff] at hplain
  subst hplain
  simp [isName, plain, hword] at h

namespace Grammar

/-- The grammar with the given depth of recursion. -/
def within (fuel : Nat) : Grammar := ⟨treeWithin fuel, itemWithin fuel⟩

/-- Code of any size is read with some depth of recursion to spare. -/
theorem exists_forTokens (code : List TokenTree) {depth : Nat} (h : depth ≤ 128) :
    ∃ fuel, forTokens code = within (fuel + depth) := by
  have hsize : depth ≤ fuelFor code := by
    rw [fuelFor]
    omega
  refine ⟨fuelFor code - depth, ?_⟩
  rw [Nat.sub_add_cancel hsize]
  rfl

/-- What may stand behind a type: nothing that a path, a sum or a macro call goes on with. -/
def EndsType (rest : List TokenTree) : Prop :=
  ∀ text ∈ ["<", "::", "!", "+", "#"], Lookahead.operator text rest = false

/-- The type that a name is; an underscore stands for a type that is left open. -/
def nameType (name : Tree) : Tree :=
  if Lookahead.keyword "_" name.tokens then typeNode [name]
  else .node .typePath [.node .path [.node .segment [name]]]

/-- A segment of a path with arguments in angle brackets. -/
def segmentWith (name : Tree) (arguments : List Tree) : Tree :=
  .node .segment [name, .node .phrase (Tree.operator "<" ++ arguments ++ Tree.operator ">")]

/-- A word that names something is read as a path. -/
theorem nameType_of_isName {ident : Located Ident} (h : ident.value.isName = true) :
    nameType (Tree.name ident) = .node .typePath [Tree.pathOfName ident] :=
  if_neg (Bool.eq_false_iff.mp (Ident.isWord_of_isName h (by decide)))

variable {closing : Option Region} {rest : List TokenTree}

section Name

variable {ident : Located Ident} (hname : ident.value.isName = true)

include hname

theorem keyword_of_isName {word : String} (hword : word ∈ Ident.keywords) :
    Lookahead.keyword word ([.word ident.value ident.region] ++ rest) = false :=
  Ident.isWord_of_isName hname hword

theorem keywords_of_isName {words : List String} (hwords : ∀ word ∈ words, word ∈ Ident.keywords) :
    Lookahead.keywords words ([.word ident.value ident.region] ++ rest) = false := by
  rw [Lookahead.keywords, List.any_eq_false]
  exact fun word hword => Bool.eq_false_iff.mp (keyword_of_isName hname (hwords word hword))

/-- A name that is a segment of a path by itself. -/
theorem takes_nameSegment {grammar : Grammar} (hrest : EndsType rest) :
    Takes (pathSegment grammar false) closing ([.word ident.value ident.region] ++ [])
      (.node .segment [Tree.name ident]) rest := by
  refine takes_ahead.look (.ifFalse (keywords_of_isName hname (by decide))
    (.ifFalse (keyword_of_isName hname (by decide)) ?_))
  refine (takes_name hname).bind (takes_ahead.look (.ifFalse ?_ (takes_pure _)))
  simp [hrest "<", hrest "::"]

/-- A name with arguments in angle brackets. -/
theorem takes_angleSegment {grammar : Grammar} {tokens : List TokenTree}
    {arguments : List (Tree × List Tree)}
    (h : ∀ more, tokens.length < more →
      Takes (argumentLoop grammar more) none tokens arguments (Template.mark ">" ++ rest)) :
    Takes (pathSegment grammar false) none
      ([.word ident.value ident.region] ++ Template.angles tokens)
      (segmentWith (Tree.name ident) (orderedArguments arguments)) rest := by
  have hopening : Takes (operator "<") none (Template.mark "<") (Tree.operator "<")
      (tokens ++ Template.mark ">" ++ rest) := rfl
  have hclosing : Takes (operator ">") none (Template.mark ">") (Tree.operator ">") rest := rfl
  have hangles : Takes (angleArguments grammar) none (Template.angles tokens)
      (.node .phrase (Tree.operator "<" ++ orderedArguments arguments ++ Tree.operator ">"))
      rest := by
    rw [Template.angles, List.append_assoc]
    refine Takes.look (takes_operator?_none rfl) (hopening.bind (takes_ahead.look
      ((h _ ?_).bind (hclosing.finish (takes_pure _)))))
    simp only [List.length_append]
    omega
  refine takes_ahead.look (.ifFalse (keywords_of_isName hname (by decide))
    (.ifFalse (keyword_of_isName hname (by decide)) ?_))
  exact (takes_name hname).bind (takes_ahead.look (hangles.finish (takes_pure _)))

/-- A type of one segment is read as a path. -/
theorem takes_segmentType {fuel : Nat} {sums : Bool} {more : List TokenTree} {segment : Tree}
    (h : Takes (pathSegment (within fuel) false) closing ([.word ident.value ident.region] ++ more)
      segment rest)
    (hstart : Lookahead.operator "#" (more ++ rest) = false) (hrest : EndsType rest) :
    Takes (treeWithin (fuel + 1) (.type sums)) closing ([.word ident.value ident.region] ++ more)
      (.node .typePath [.node .path [segment]]) rest := by
  have hfurther : furtherSegment rest = false := by simp [furtherSegment, hrest "::"]
  have hmany (parser : Parser (List Tree)) :
      Takes (many furtherSegment parser) closing [] [] rest :=
    takes_ahead.look (Takes.whether false hfurther (takes_pure []))
  have hpath : Takes (qualifiedPath (within fuel) false) closing
      ([.word ident.value ident.region] ++ more) (.node .path [segment]) rest :=
    Takes.whether false rfl (Takes.look (takes_operator?_none rfl)
      (h.finish ((hmany _).finish (takes_pure _))))
  have hcall : macroFollows (.node .path [segment]) rest = false := by
    simp [macroFollows, hrest "!"]
  have htype : Takes (pathType (within fuel) sums []) closing
      ([.word ident.value ident.region] ++ more) (.node .typePath [.node .path [segment]])
      rest := by
    refine hpath.finish (.ifFalse rfl (takes_ahead.look
      (.ifFalse hcall (.ifFalse ?_ (takes_pure _)))))
    simp [hrest "+"]
  have hbuiltin : builtinAhead ([.word ident.value ident.region] ++ more ++ rest) = false := by
    simp [builtinAhead, Lookahead.skip, hstart]
  have hkeyword {word : String} (hword : word ∈ Ident.keywords) :
      Lookahead.keyword word ([.word ident.value ident.region] ++ more ++ rest) = false :=
    keyword_of_isName hname hword
  have hbinder : Takes (binder? (within fuel)) closing [] []
      ([.word ident.value ident.region] ++ more ++ rest) :=
    Takes.whether false (hkeyword (by decide)) (takes_pure [])
  have hahead : Lookahead.name ([.word ident.value ident.region] ++ more ++ rest) = true := hname
  refine takes_ahead.look (Takes.look hbinder (takes_ahead.look ?_))
  refine .ifFalse rfl (.ifFalse hbuiltin (.ifFalse rfl
    (.ifFalse (keywords_of_isName hname (by decide)) (.ifTrue ?_ htype))))
  rw [hahead]
  rfl

end Name

/-- A name is read as a type. -/
theorem takes_nameType {fuel : Nat} {ident : Located Ident} {sums : Bool}
    (hname : ident.value.isName = true ∨ ident.value = .plain "_") (hrest : EndsType rest) :
    Takes (treeWithin (fuel + 1) (.type sums)) closing [.word ident.value ident.region]
      (nameType (Tree.name ident)) rest := by
  obtain ⟨value, region⟩ := ident
  rcases hname with hname | hname
  · rw [nameType_of_isName hname]
    exact takes_segmentType hname (takes_nameSegment hname hrest) (hrest "#" (by simp)) hrest
  · dsimp only at hname
    subst hname
    have hbinder : Takes (binder? (within fuel)) closing [] []
        ([.word (.plain "_") region] ++ rest) := rfl
    have hword : Takes (keyword "_") closing [.word (.plain "_") region]
        [.leaf (.word (.plain "_") region)] rest := rfl
    refine takes_ahead.look (Takes.look hbinder (takes_ahead.look ?_))
    exact .ifFalse rfl (.ifFalse rfl (.ifFalse rfl (.ifFalse rfl (.ifFalse rfl (.ifFalse rfl
      (.ifFalse rfl (.ifFalse rfl (.ifFalse rfl (.ifFalse rfl (.ifFalse rfl (.ifTrue rfl
        (hword.finish (takes_pure _)))))))))))))

/-- A name with arguments in angle brackets is read as a type. -/
theorem takes_angleType {fuel : Nat} {ident : Located Ident} {sums : Bool}
    {tokens : List TokenTree} {arguments : List (Tree × List Tree)}
    (hname : ident.value.isName = true) (hrest : EndsType rest)
    (h : ∀ more, tokens.length < more →
      Takes (argumentLoop (within fuel) more) none tokens arguments (Template.mark ">" ++ rest)) :
    Takes (treeWithin (fuel + 1) (.type sums)) none
      ([.word ident.value ident.region] ++ Template.angles tokens)
      (.node .typePath [.node .path [segmentWith (Tree.name ident) (orderedArguments arguments)]])
      rest :=
  takes_segmentType hname (takes_angleSegment hname h) rfl hrest

/-- The type without content. -/
def unitType : Tree := typeNode [Tree.generatedGroup .parenthesis []]

/-- The type of what is borrowed for a lifetime and has no content. -/
def borrowedType (lifetime : Tree) : Tree :=
  typeNode (Tree.operator "&" ++ [lifetime, unitType])

theorem takes_borrowedType {fuel : Nat} {sums : Bool} {lifetime : Tree} (h : IsLifetime lifetime) :
    Takes (treeWithin (fuel + 2) (.type sums)) closing
      (Template.mark "&" ++ (lifetime.tokens ++ Template.parentheses [])) (borrowedType lifetime)
      rest := by
  obtain ⟨joint, region, ident, place, rfl⟩ := h
  rfl

/-- The type of functions that take and return values of a type. -/
def functionOf (type : Tree) : Tree :=
  typeNode (Tree.word "fn" :: Tree.generatedGroup .parenthesis [type]
    :: (Tree.operator "->" ++ [type]))

/-- Tokens that a function type may have for its only input: no attributes, no name, no receiver and
no dots stand in front. -/
structure IsInput (tokens : List TokenTree) : Prop where
  some : tokens.isEmpty = false
  attributes : Lookahead.operator "#" tokens = false
  dots : Lookahead.operator "..." tokens = false
  named : Lookahead.operator ":" (Lookahead.skip tokens) = false
  receiver : changeableSelf tokens = false

/-- The tokens are read as the type wherever they do not go on. -/
def ReadsType (fuel : Nat) (tokens : List TokenTree) (type : Tree) : Prop :=
  ∀ ⦃sums : Bool⦄ ⦃closing : Option Region⦄ ⦃rest : List TokenTree⦄, EndsType rest →
    Takes (treeWithin fuel (.type sums)) closing tokens type rest

theorem endsType_nil : EndsType [] := by
  simp [EndsType, Lookahead.operator, Lookahead.operatorChars]

theorem endsType_comma {others : List TokenTree} : EndsType (Template.mark "," ++ others) := by
  intro text htext
  simp only [List.mem_cons, List.not_mem_nil, or_false] at htext
  rcases htext with rfl | rfl | rfl | rfl | rfl <;> rfl

section Function

variable {fuel : Nat} {tokens : List TokenTree} {type : Tree}

theorem takes_functionTypeInput (hinput : IsInput tokens) (h : ReadsType fuel tokens type) :
    Takes (functionTypeInput (within fuel) true) closing tokens [type] [] := by
  have hreceiver : changeableSelf (tokens ++ []) = false := by
    rw [List.append_nil, hinput.receiver]
  have hnamed : ((Lookahead.name (tokens ++ []) || Lookahead.keyword "_" (tokens ++ [])
      || true && Lookahead.keyword "self" (tokens ++ []))
      && Lookahead.operator ":" (Lookahead.skip (tokens ++ []))
      && !Lookahead.operator "::" (Lookahead.skip (tokens ++ []))) = false := by
    rw [List.append_nil, hinput.named, Bool.and_false, Bool.false_and]
  refine takes_ahead.look (.ifFalse hreceiver (takes_ahead.look (.ifFalse hnamed ?_)))
  refine Takes.look (takes_pure []) (takes_ahead.look ?_)
  refine .ifFalse ?_ (.ifFalse ?_ ((h endsType_nil).finish (.ifFalse hreceiver (takes_pure _))))
  · rw [hreceiver, Bool.and_false]
  · rw [hreceiver]
    rfl

theorem takes_functionTypeInputs {more : Nat} (hinput : IsInput tokens)
    (h : ReadsType fuel tokens type) :
    Takes (functionTypeInputs (within fuel) (more + 1) true) closing tokens [type] [] := by
  have hsome : (tokens ++ []).isEmpty = false := by
    rw [List.append_nil, hinput.some]
  have hattributes : Takes (outerTrees (within fuel)) closing [] [] (tokens ++ []) :=
    outerTrees_of_not_ahead (by simpa using hinput.attributes)
  have hopen : openInputs (tokens ++ []) = false := by
    rw [List.append_nil, openInputs]
    simp [hinput.dots, hinput.named]
  refine Takes.whether false hsome (Takes.look hattributes (Takes.whether false hopen ?_))
  exact (takes_functionTypeInput hinput h).finish (Takes.whether true rfl (takes_pure _))

theorem takes_functionType (hinput : IsInput tokens) (h : ReadsType fuel tokens type) :
    ReadsType (fuel + 1)
      (Template.word "fn" ++ (Template.parentheses tokens ++ (Template.mark "->" ++ tokens)))
      (functionOf type) := by
  intro sums closing rest hrest
  have hword (others : List TokenTree) :
      Takes (keyword "fn") closing (Template.word "fn") [Tree.word "fn"] others := rfl
  have hinputs (others : List TokenTree) : Takes (groupOf .parenthesis do
      let tokens ← ahead
      functionTypeInputs (within fuel) (tokens.length + 1) true) closing
      (Template.parentheses tokens) (Tree.generatedGroup .parenthesis [type]) others :=
    (takes_inside (takes_ahead.look (takes_functionTypeInputs hinput h))).finish (takes_pure _)
  have hmark : Takes (operator "->") closing (Template.mark "->") (Tree.operator "->")
      (tokens ++ rest) := rfl
  have houtput : Takes (returnType (within fuel) false) closing (Template.mark "->" ++ tokens)
      (Tree.operator "->" ++ [type]) rest :=
    Takes.whether true rfl (hmark.bind ((h hrest).finish (takes_pure _)))
  have hfunction : Takes (functionType (within fuel) []) closing
      (Template.word "fn" ++ (Template.parentheses tokens ++ (Template.mark "->" ++ tokens)))
      (functionOf type) rest :=
    Takes.look rfl (Takes.look rfl
      ((hword _).bind ((hinputs _).bind (houtput.finish (takes_pure _)))))
  exact takes_ahead.look (Takes.look rfl (takes_ahead.look
    (.ifFalse rfl (.ifFalse rfl (.ifFalse rfl (.ifTrue rfl hfunction))))))

end Function

/-! ## Tuples of types -/

/-- Types with a comma behind each. -/
def commaTypes (types : List Tree) : List Tree :=
  types.flatMap fun type => type :: Tree.operator ","

/-- The tokens of types with a comma behind each. -/
def commaTokens (types : List (List TokenTree)) : List TokenTree :=
  types.flatMap fun type => type ++ Template.mark ","

theorem commaTokens_cons (type : List TokenTree) (types : List (List TokenTree)) :
    commaTokens (type :: types) = type ++ (Template.mark "," ++ commaTokens types) := by
  rw [commaTokens, List.flatMap_cons, List.append_assoc]
  rfl

theorem length_le_commaTokens (types : List (List TokenTree)) :
    types.length ≤ (commaTokens types).length := by
  induction types with
  | nil => simp
  | cons first others ih =>
    have hmark : (Template.mark ",").length = 1 := rfl
    simp only [commaTokens_cons, List.length_append, List.length_cons]
    omega

/-- The type of tuples. -/
def tupleOf (types : List Tree) : Tree :=
  typeNode [Tree.generatedGroup .parenthesis (commaTypes types)]

section Tuple

variable {fuel : Nat} {tokens : List (List TokenTree)} {types : List Tree}

/-- Types with a comma behind each are read one by one. -/
theorem takes_separatedLoop {more : Nat} (hsome : ∀ type ∈ tokens, type.isEmpty = false)
    (h : List.Forall₂ (ReadsType fuel) tokens types) (hmore : tokens.length < more) :
    Takes (separatedLoop more List.isEmpty "," do return [← (within fuel).type]) none
      (commaTokens tokens) (commaTypes types) [] := by
  induction h generalizing more with
  | nil =>
    obtain ⟨more, rfl⟩ : ∃ smaller, more = smaller + 1 := Nat.exists_eq_add_one.mpr (by omega)
    exact Takes.whether true rfl (takes_pure [])
  | @cons first type tokens types hfirst hothers ih =>
    obtain ⟨more, rfl⟩ : ∃ smaller, more = smaller + 1 := Nat.exists_eq_add_one.mpr (by omega)
    obtain ⟨hhead, htail⟩ := List.forall_mem_cons.mp hsome
    have hlater := ih htail (by simpa using hmore)
    have htype : Takes (within fuel).type none first type
        (Template.mark "," ++ commaTokens tokens ++ []) := hfirst endsType_comma
    have hcomma : Takes (operator ",") none (Template.mark ",") (Tree.operator ",")
        (commaTokens tokens ++ []) := rfl
    have hgoes : (first ++ (Template.mark "," ++ commaTokens tokens) ++ []).isEmpty = false := by
      simp_all
    rw [commaTokens_cons]
    exact Takes.whether false hgoes ((htype.map fun type => [type]).bind (Takes.whether false rfl
      (hcomma.bind (hlater.finish (takes_pure _)))))

theorem takes_commaList (hsome : ∀ type ∈ tokens, type.isEmpty = false)
    (h : List.Forall₂ (ReadsType fuel) tokens types) :
    Takes (commaList do return [← (within fuel).type]) none (commaTokens tokens) (commaTypes types)
      [] := by
  have hlength := length_le_commaTokens tokens
  refine takes_ahead.look (takes_separatedLoop hsome h ?_)
  rw [List.append_nil]
  omega

/-- Function types with a comma behind each are read as a type of tuples. -/
theorem takes_parenthesisedType
    (hstart : ∀ type ∈ tokens, ∃ more, type = Template.word "fn" ++ more)
    (h : List.Forall₂ (ReadsType fuel) tokens types) :
    Takes (parenthesisedType (within fuel)) closing (Template.parentheses (commaTokens tokens))
      (.complete (tupleOf types)) rest := by
  cases h with
  | nil => rfl
  | @cons first type tokens types hfirst hothers =>
    obtain ⟨⟨more, rfl⟩, htail⟩ := List.forall_mem_cons.mp hstart
    have hsome : ∀ type ∈ tokens, type.isEmpty = false := by
      intro type htype
      obtain ⟨more, rfl⟩ := htail type htype
      rfl
    have htype : Takes (within fuel).type none (Template.word "fn" ++ more) type
        (Template.mark "," ++ commaTokens tokens ++ []) := hfirst endsType_comma
    have hcomma : Takes (operator ",") none (Template.mark ",") (Tree.operator ",")
        (commaTokens tokens ++ []) := rfl
    rw [commaTokens_cons]
    have hrest : Takes ((commaList do return [← (within fuel).type])
          >>= fun rest => pure (type :: Tree.operator "," ++ rest, 0)) none (commaTokens tokens)
        (type :: Tree.operator "," ++ commaTypes types, 0) [] :=
      (takes_commaList hsome hothers).finish (takes_pure _)
    exact (takes_inside (takes_ahead.look (htype.bind
      (Takes.whether true rfl (hcomma.bind hrest))))).finish (takes_pure _)

theorem takes_tupleOf {sums : Bool}
    (hstart : ∀ type ∈ tokens, ∃ more, type = Template.word "fn" ++ more)
    (h : List.Forall₂ (ReadsType fuel) tokens types) :
    Takes (treeWithin (fuel + 1) (.type sums)) closing (Template.parentheses (commaTokens tokens))
      (tupleOf types) rest :=
  takes_ahead.look (Takes.look rfl (takes_ahead.look
    ((takes_parenthesisedType hstart h).finish (takes_pure _))))

/-- The last segment of the type that stands for the use of a tuple of types. -/
def phantomSegment (types : List Tree) : Tree :=
  segmentWith (Tree.word "PhantomData") [tupleOf types]

/-- The path of the type that stands for the use of a tuple of types. -/
def phantomPathOf (types : List Tree) : Tree :=
  .node .path (Tree.operator "::" ++ .node .segment [Tree.word "core"]
    :: (Tree.operator "::" ++ [.node .segment [Tree.word "marker"]]
      ++ (Tree.operator "::" ++ [phantomSegment types])))

/-- The type that stands for the use of a tuple of types and has no content. -/
def phantomOf (types : List Tree) : Tree := .node .typePath [phantomPathOf types]

/-- The tokens of a tuple in angle brackets. -/
def tupleArgument (tokens : List (List TokenTree)) : List TokenTree :=
  Template.angles (Template.parentheses (commaTokens tokens))

theorem takes_phantomSegment (hstart : ∀ type ∈ tokens, ∃ more, type = Template.word "fn" ++ more)
    (h : List.Forall₂ (ReadsType fuel) tokens types) :
    Takes (pathSegment (within (fuel + 1)) false) none
      (Template.word "PhantomData" ++ tupleArgument tokens) (phantomSegment types) [] := by
  have hargument {others : List TokenTree} : Takes (pathArgument (within (fuel + 1))) none
      (Template.parentheses (commaTokens tokens)) (tupleOf types) others :=
    takes_ahead.look ((takes_tupleOf hstart h).finish (takes_pure _))
  have hloop (more : Nat) (hmore : (Template.parentheses (commaTokens tokens)).length < more) :
      Takes (argumentLoop (within (fuel + 1)) more) none (Template.parentheses (commaTokens tokens))
        [(tupleOf types, [])] (Template.mark ">" ++ []) := by
    obtain ⟨more, rfl⟩ : ∃ smaller, more = smaller + 1 := Nat.exists_eq_add_one.mpr (by omega)
    exact Takes.whether false rfl (hargument.finish (Takes.whether true rfl (takes_pure _)))
  have hname : (⟨.plain "PhantomData", none⟩ : Located Ident).value.isName = true := by decide
  exact takes_angleSegment hname hloop

/-- A segment behind the first one of a path. -/
def laterSegment (grammar : Grammar) : Parser (List Tree) := do
  let colons ← operator "::"
  let segment ← pathSegment grammar false
  pure (colons ++ [segment])

theorem takes_phantomOf (hstart : ∀ type ∈ tokens, ∃ more, type = Template.word "fn" ++ more)
    (h : List.Forall₂ (ReadsType fuel) tokens types) :
    Takes (treeWithin (fuel + 2) (.type true)) none (Template.phantomPath ++ tupleArgument tokens)
      (phantomOf types) [] := by
  have hcolons {others : List TokenTree} : Takes (operator "::") none (Template.mark "::")
      (Tree.operator "::") others := rfl
  have hroot {others : List TokenTree} : Takes (operator? "::") none (Template.mark "::")
      (Tree.operator "::") others := rfl
  have hcore {second : List TokenTree} : Takes (pathSegment (within (fuel + 1)) false) none
      (Template.word "core") (.node .segment [Tree.word "core"])
      (Template.mark "::" ++ (Template.word "marker" ++ second) ++ []) := rfl
  have hmarker {second : List TokenTree} : Takes (pathSegment (within (fuel + 1)) false) none
      (Template.word "marker") (.node .segment [Tree.word "marker"])
      (Template.mark "::" ++ (Template.word "PhantomData" ++ second) ++ []) := rfl
  have hmiddle {second : List TokenTree} : Takes (laterSegment (within (fuel + 1))) none
      (Template.mark "::" ++ Template.word "marker")
      (Tree.operator "::" ++ [.node .segment [Tree.word "marker"]])
      (Template.mark "::" ++ (Template.word "PhantomData" ++ second) ++ []) :=
    hcolons.bind (hmarker.finish (takes_pure _))
  have hlast : Takes (laterSegment (within (fuel + 1))) none
      (Template.mark "::" ++ (Template.word "PhantomData" ++ tupleArgument tokens))
      (Tree.operator "::" ++ [phantomSegment types]) ([] ++ []) :=
    hcolons.bind ((takes_phantomSegment hstart h).finish (takes_pure _))
  have hend {more : Nat} :
      Takes (whilst (more + 2) furtherSegment (laterSegment (within (fuel + 1)))) none
      (Template.mark "::" ++ (Template.word "PhantomData" ++ tupleArgument tokens))
      (Tree.operator "::" ++ [phantomSegment types]) [] := by
    rw [← List.append_nil (Template.mark "::" ++ (_ ++ _)), ← List.append_nil (_ ++ [_])]
    exact takes_whilst_cons rfl hlast (takes_whilst_nil rfl)
  have hmany : Takes (many furtherSegment (laterSegment (within (fuel + 1)))) none
      (Template.mark "::" ++ Template.word "marker"
        ++ (Template.mark "::" ++ (Template.word "PhantomData" ++ tupleArgument tokens)))
      (Tree.operator "::" ++ [.node .segment [Tree.word "marker"]]
        ++ (Tree.operator "::" ++ [phantomSegment types])) [] :=
    takes_ahead.look (takes_whilst_cons rfl hmiddle hend)
  have hpath : Takes (qualifiedPath (within (fuel + 1)) false) none
      (Template.phantomPath ++ tupleArgument tokens) (phantomPathOf types) [] :=
    Takes.whether false rfl (hroot.bind (hcore.bind (hmany.finish (takes_pure _))))
  have hcall : macroFollows (phantomPathOf types) [] = false :=
    Bool.and_eq_false_imp.mpr fun h => by simp [Lookahead.operator, Lookahead.operatorChars] at h
  have htype : Takes (pathType (within (fuel + 1)) true []) none
      (Template.phantomPath ++ tupleArgument tokens) (phantomOf types) [] :=
    hpath.finish (.ifFalse rfl (takes_ahead.look (.ifFalse hcall (.ifFalse rfl (takes_pure _)))))
  exact takes_ahead.look (Takes.look rfl (takes_ahead.look
    (.ifFalse rfl (.ifFalse rfl (.ifFalse rfl (.ifFalse rfl (.ifTrue rfl htype)))))))

end Tuple

end Grammar

end Counterpart
