import Counterpart.Proofs.PlainParts

/-!
# Paths that are read back

A path is taken segment by segment, and the arguments of a segment one by one, each up to its comma.
Every lemma says what must not stand behind the construct (`Lacks`): an angle bracket or a double
colon goes on with a path, and some marks more go on with a type. What the parts of a path are taken
as is supposed here, so all of this holds at any depth of recursion.
-/

namespace Counterpart

open Counterpart.Parser

namespace Grammar

variable {closing : Option Region} {rest : List TokenTree} {fuel : Nat}

/-! ## Segments -/

/-- None of the operators stands ahead. -/
def Lacks (texts : List String) (rest : List TokenTree) : Prop :=
  ∀ text ∈ texts, Lookahead.operator text rest = false

/-- What may stand behind a segment: no arguments, with or without a double colon. -/
def EndsSegment (rest : List TokenTree) : Prop :=
  Lookahead.operator "<" rest = false ∧ (Lookahead.operator "::" rest = true →
    Lookahead.operator "<" (Lookahead.skip (Lookahead.skip rest)) = false)

theorem isSegment_iff {ident : Ident} : ident.IsSegment ↔
    (ident.isName = true ∨ ident = .plain "Self") ∨
      ident = .plain "super" ∨ ident = .plain "self" ∨ ident = .plain "crate" := by
  simp only [Ident.IsSegment, moduleSegment, Lookahead.name, Lookahead.pathKeyword,
    Lookahead.keywords, Lookahead.keyword, TokenTree.ident?, TokenTree.isWord, Ident.isWord_iff,
    List.head?_cons, Option.bind_some, Option.any_some, List.any_cons, List.any_nil,
    Bool.or_eq_true, Bool.or_false]
  tauto

/-- A segment of a type behind its word: the arguments that may stand there. -/
def segmentRest (grammar : Grammar) (ident : Located Ident) : Parser Tree := do
  let behind ← ahead
  let bare := !false && Lookahead.operator "<" behind && !Lookahead.operator "<=" behind
    && !Lookahead.operator "<<=" behind
  let marked := Lookahead.operator "::" behind
    && Lookahead.operator "<" (Lookahead.skip (Lookahead.skip behind))
  if bare || marked then
    let arguments ← angleArguments grammar
    pure (.node .segment [Tree.name ident, arguments])
  else pure (.node .segment [Tree.name ident])

theorem takes_segment {grammar : Grammar} {ident : Located Ident} {tokens : List TokenTree}
    {segment : Tree} (hname : ident.value.isName = true ∨ ident.value = .plain "Self")
    (hbehind : Takes (segmentRest grammar ident) closing tokens segment rest) :
    Takes (pathSegment grammar false) closing ([.word ident.value ident.region] ++ tokens) segment
      rest := by
  obtain ⟨value, region⟩ := ident
  rcases hname with hname | hname
  · exact takes_ahead.look (.ifFalse (keywords_of_isName hname (by decide))
      (.ifFalse (keyword_of_isName hname (by decide)) ((takes_name hname).bind hbehind)))
  · dsimp only at hname
    subst hname
    exact takes_ahead.look (.ifFalse rfl
      (.ifTrue rfl ((takes_anyWord ⟨.plain "Self", region⟩).bind hbehind)))

/-- A word that is a segment by itself. -/
theorem takes_segmentWord {grammar : Grammar} {ident : Located Ident}
    (hword : ident.value.IsSegment) (hrest : EndsSegment rest) :
    Takes (pathSegment grammar false) closing [.word ident.value ident.region]
      (.node .segment [Tree.name ident]) rest := by
  rcases isSegment_iff.mp hword with hname | hkeyword
  · refine takes_segment hname (takes_ahead.look (.ifFalse ?_ (takes_pure _)))
    simpa [hrest.1] using hrest.2
  · obtain ⟨value, region⟩ := ident
    dsimp only at hkeyword
    rcases hkeyword with rfl | rfl | rfl <;> rfl

/-! ## Arguments in angle brackets -/

/-- Pieces with commas are taken one by one, if each is taken in front of a comma and of the end. -/
theorem takes_separatedPieces {parser : Parser (List Tree)} {stop : List TokenTree → Bool}
    {pieces : List (Tree × List Tree)} (hcommas : Separated pieces)
    (hpiece : ∀ entry ∈ pieces, ∀ behind,
      (behind = rest ∨ ∃ region others, behind = .punct ',' false region :: others) →
        Takes parser closing entry.1.tokens [entry.1] behind ∧
          stop (entry.1.tokens ++ behind) = false)
    (hcomma : ∀ region others, stop (.punct ',' false region :: others) = false)
    (hstop : stop rest = true) (hfuel : pieces.length ≤ fuel) :
    Takes (separatedLoop fuel stop "," parser) closing (Tree.tokensAll (written pieces))
      (written pieces) rest := by
  induction hcommas generalizing fuel with
  | nil =>
    cases fuel with
    | zero => exact takes_pure []
    | succ fuel => exact Takes.whether true hstop (takes_pure [])
  | @last piece =>
    obtain ⟨fuel, rfl⟩ : ∃ smaller, fuel = smaller + 1 := Nat.exists_eq_add_one.mpr hfuel
    obtain ⟨hpiece, hgoes⟩ := hpiece _ List.mem_cons_self rest (.inl rfl)
    rw [tokensAll_written_last]
    exact Takes.whether false hgoes (hpiece.finish (Takes.whether true hstop (takes_pure _)))
  | @more piece region pieces hpieces ih =>
    obtain ⟨fuel, rfl⟩ : ∃ smaller, fuel = smaller + 1 :=
      Nat.exists_eq_add_one.mpr (by simp at hfuel; omega)
    obtain ⟨hhead, htail⟩ := List.forall_mem_cons.mp hpiece
    have hlater := ih htail (by simpa using hfuel)
    obtain ⟨hpiece, hgoes⟩ := hhead ([.punct ',' false region] ++ Tree.tokensAll (written pieces)
      ++ rest) (.inr ⟨region, _, rfl⟩)
    have hmark : Takes (operator ",") closing [.punct ',' false region] [single ',' region]
        (Tree.tokensAll (written pieces) ++ rest) := takes_operator rfl (by decide) region
    rw [tokensAll_written_more]
    rw [← List.append_assoc] at hgoes
    exact Takes.whether false hgoes (hpiece.bind (Takes.whether false (hcomma _ _)
      (hmark.bind (hlater.finish (takes_pure _)))))

theorem takes_argumentPieces {grammar : Grammar} {ending : Option Region}
    {pieces : List (Tree × List Tree)} (hcommas : Separated pieces)
    (hpiece : ∀ entry ∈ pieces, ∀ behind, parameterBoundEnd behind = true →
      Takes (pathArgument grammar) closing entry.1.tokens entry.1 behind ∧
        Lookahead.operator ">" (entry.1.tokens ++ behind) = false)
    (hfuel : pieces.length ≤ fuel) :
    Takes (argumentLoop grammar fuel) closing (Tree.tokensAll (written pieces)) pieces
      (.punct '>' false ending :: rest) := by
  induction hcommas generalizing fuel with
  | nil =>
    cases fuel with
    | zero => exact takes_pure []
    | succ fuel => exact Takes.whether true rfl (takes_pure [])
  | @last piece =>
    obtain ⟨fuel, rfl⟩ : ∃ smaller, fuel = smaller + 1 := Nat.exists_eq_add_one.mpr hfuel
    obtain ⟨hpiece, hgoes⟩ := hpiece _ List.mem_cons_self (.punct '>' false ending :: rest) rfl
    rw [tokensAll_written_last]
    exact Takes.whether false hgoes (hpiece.finish (Takes.whether true rfl (takes_pure _)))
  | @more piece region pieces hpieces ih =>
    obtain ⟨fuel, rfl⟩ : ∃ smaller, fuel = smaller + 1 :=
      Nat.exists_eq_add_one.mpr (by simp at hfuel; omega)
    obtain ⟨hhead, htail⟩ := List.forall_mem_cons.mp hpiece
    have hlater := ih htail (by simpa using hfuel)
    obtain ⟨hpiece, hgoes⟩ := hhead ([.punct ',' false region] ++ Tree.tokensAll (written pieces)
      ++ .punct '>' false ending :: rest) rfl
    have hmark : Takes (operator ",") closing [.punct ',' false region] [single ',' region]
        (Tree.tokensAll (written pieces) ++ .punct '>' false ending :: rest) :=
      takes_operator rfl (by decide) region
    rw [tokensAll_written_more]
    rw [← List.append_assoc] at hgoes
    exact Takes.whether false hgoes (hpiece.bind (Takes.whether false rfl
      (hmark.bind (hlater.finish (takes_pure _)))))

/-- Every piece but the last has a comma behind it. -/
theorem Separated.length_le {pieces : List (Tree × List Tree)} (h : Separated pieces) :
    pieces.length ≤ (Tree.tokensAll (written pieces)).length + 1 := by
  induction h with
  | nil => simp
  | last => simp
  | more hpieces ih =>
    simp only [written, List.flatMap_cons, Tree.tokensAll_append, Tree.tokensAll_cons, single,
      Tree.tokens, List.length_append, List.length_cons] at ih ⊢
    omega

theorem joinWithCommas_of_separated {pieces : List (Tree × List Tree)} (h : Separated pieces) :
    joinWithCommas false pieces = written pieces := by
  induction h with
  | nil => rfl
  | last => rfl
  | more hpieces ih =>
    rw [joinWithCommas, List.isEmpty_cons, ih]
    rfl

theorem Separated.of_append {first second : List (Tree × List Tree)}
    (h : Separated (first ++ second)) : Separated second ∧
      (second ≠ [] → ∀ entry ∈ first, entry.2.isEmpty = false) := by
  induction first with
  | nil => exact ⟨h, fun _ => nofun⟩
  | cons entry first ih =>
    rw [List.cons_append] at h
    cases hpieces : first ++ second with
    | nil =>
      obtain ⟨rfl, rfl⟩ := List.append_eq_nil_iff.mp hpieces
      exact ⟨.nil, absurd rfl⟩
    | cons next pieces =>
      rw [hpieces] at h ih
      cases h with
      | more hmore =>
        obtain ⟨hsecond, hcommas⟩ := ih hmore
        exact ⟨hsecond, fun hsome => List.forall_mem_cons.mpr ⟨rfl, hcommas hsome⟩⟩

/-- Arguments with the lifetimes in front stay in their order. -/
theorem orderedArguments_append {lifetimes arguments : List (Tree × List Tree)}
    (hlifetimes : ∀ entry ∈ lifetimes, IsLifetime entry.1)
    (harguments : ∀ entry ∈ arguments, entry.1.isKind .lifetime = false)
    (hcommas : Separated (lifetimes ++ arguments)) :
    orderedArguments (lifetimes ++ arguments) = written (lifetimes ++ arguments) := by
  have hfirst : ∀ entry ∈ lifetimes, entry.1.isKind .lifetime = true := by
    intro entry hentry
    obtain ⟨joint, region, ident, place, hlifetime⟩ := hlifetimes entry hentry
    rw [hlifetime]
    rfl
  obtain ⟨hseparated, hbehind⟩ := hcommas.of_append
  have hpartition : (lifetimes ++ arguments).partition (fun entry => entry.1.isKind .lifetime) =
      (lifetimes, arguments) := by
    rw [List.partition_eq_filter_filter, List.filter_append, List.filter_append,
      List.filter_eq_self.mpr hfirst, List.filter_eq_nil_iff.mpr fun entry hentry => by
        simp [harguments entry hentry], List.filter_eq_nil_iff.mpr fun entry hentry => by
        simp [hfirst entry hentry], List.filter_eq_self.mpr fun entry hentry => by
        simp [harguments entry hentry], List.append_nil, List.nil_append]
  rw [orderedArguments, hpartition, written, List.flatMap_append]
  refine congrArg (lifetimes.flatMap (fun entry => entry.1 :: entry.2) ++ ·) ?_
  cases arguments with
  | nil => rfl
  | cons entry arguments =>
    have hlast : (lifetimes.getLast?.any fun entry => entry.2.isEmpty) = false := by
      rw [Option.any_eq_false]
      intro entry hentry
      rw [hbehind (List.cons_ne_nil _ _) entry (List.mem_of_getLast? hentry)]
    dsimp only
    rw [hlast]
    exact joinWithCommas_of_separated hseparated

theorem takes_angleArguments {grammar : Grammar} {colons : List Tree}
    {lifetimes arguments : List (Tree × List Tree)} {opening ending : Option Region}
    (hcolons : colons = [] ∨ IsColons colons)
    (hlifetimes : ∀ entry ∈ lifetimes, IsLifetime entry.1)
    (harguments : ∀ entry ∈ arguments, entry.1.isKind .lifetime = false)
    (hcommas : Separated (lifetimes ++ arguments))
    (hpiece : ∀ entry ∈ lifetimes ++ arguments, ∀ behind, parameterBoundEnd behind = true →
      Takes (pathArgument grammar) closing entry.1.tokens entry.1 behind ∧
        Lookahead.operator ">" (entry.1.tokens ++ behind) = false) :
    Takes (angleArguments grammar) closing (Tree.tokensAll colons ++ ([.punct '<' false opening]
        ++ (Tree.tokensAll (written (lifetimes ++ arguments)) ++ [.punct '>' false ending])))
      (.node .phrase (colons ++ (single '<' opening
        :: (written (lifetimes ++ arguments) ++ [single '>' ending])))) rest := by
  have hordered := orderedArguments_append hlifetimes harguments hcommas
  have hfirst {others : List TokenTree} : Takes (operator? "::") closing (Tree.tokensAll colons)
      colons (.punct '<' false opening :: others) := by
    rcases hcolons with rfl | ⟨region, place, rfl⟩ <;> rfl
  have hopening {others : List TokenTree} : Takes (operator "<") closing
      [.punct '<' false opening] [single '<' opening] others := rfl
  have hending : Takes (operator ">") closing [.punct '>' false ending] [single '>' ending] rest :=
    rfl
  have hfuel := hcommas.length_le
  have harguments : Takes (argumentLoop grammar ((Tree.tokensAll (written (lifetimes ++ arguments))
      ++ [TokenTree.punct '>' false ending] ++ rest).length + 1)) closing
      (Tree.tokensAll (written (lifetimes ++ arguments))) (lifetimes ++ arguments)
      (.punct '>' false ending :: rest) := by
    refine takes_argumentPieces hcommas hpiece ?_
    simp only [List.length_append] at hfuel ⊢
    omega
  have hphrase : colons ++ [single '<' opening] ++ orderedArguments (lifetimes ++ arguments)
      ++ [single '>' ending] = colons ++ (single '<' opening
        :: (written (lifetimes ++ arguments) ++ [single '>' ending])) := by
    rw [hordered]
    simp
  rw [← hphrase]
  exact hfirst.bind (hopening.bind (takes_ahead.look
    (harguments.bind (hending.finish (takes_pure _)))))

/-- Arguments in angle brackets are read behind a word of a path. -/
theorem takes_segmentRest {grammar : Grammar} {ident : Located Ident} {colons : List Tree}
    {others : List TokenTree} {opening : Option Region} {arguments : Tree}
    (hcolons : colons = [] ∨ IsColons colons)
    (hangles : Takes (angleArguments grammar) closing
      (Tree.tokensAll colons ++ ([.punct '<' false opening] ++ others)) arguments rest) :
    Takes (segmentRest grammar ident) closing
      (Tree.tokensAll colons ++ ([.punct '<' false opening] ++ others))
      (.node .segment [Tree.name ident, arguments]) rest := by
  refine takes_ahead.look (.ifTrue ?_ (hangles.finish (takes_pure _)))
  rcases hcolons with rfl | ⟨region, place, rfl⟩
  · rfl
  · rfl

/-! ## Paths -/

/-- A segment that is read back in front of all that does not go on with it. -/
structure SegmentComesBack (grammar : Grammar) (segment : Tree) : Prop where
  starts : ∃ ident region others, segment.tokens = .word ident region :: others
  takes : ∀ ⦃closing : Option Region⦄ ⦃rest : List TokenTree⦄, EndsSegment rest →
    Takes (pathSegment grammar false) closing segment.tokens segment rest

/-- Behind a segment stands another one or what stands behind the path. -/
theorem endsSegment_of_path {grammar : Grammar} {later : List (List Tree × Tree)}
    (hlater : ∀ entry ∈ later, IsColons entry.1 ∧ SegmentComesBack grammar entry.2)
    (hrest : Lacks ["<", "::"] rest) :
    EndsSegment (Tree.tokensAll (writtenSegments later) ++ rest) := by
  cases later with
  | nil => exact ⟨hrest "<" (by simp), fun h => absurd h (by simp [writtenSegments, hrest "::"])⟩
  | cons entry later =>
    obtain ⟨⟨region, place, hcolons⟩, ⟨ident, spot, others, hstarts⟩, -⟩ :=
      hlater entry List.mem_cons_self
    rw [tokens_segments, hcolons, hstarts]
    exact ⟨rfl, fun _ => rfl⟩

theorem takes_laterSegments {grammar : Grammar} {test : List TokenTree → Bool}
    {later : List (List Tree × Tree)}
    (hlater : ∀ entry ∈ later, IsColons entry.1 ∧ SegmentComesBack grammar entry.2)
    (htest : ∀ region place ident spot others, test (.punct ':' true region
      :: .punct ':' false place :: .word ident spot :: others) = true)
    (hrest : Lacks ["<", "::"] rest) (hend : test rest = false) (hfuel : later.length < fuel) :
    Takes (whilst fuel test (laterSegment grammar)) closing
      (Tree.tokensAll (writtenSegments later)) (writtenSegments later) rest := by
  induction later generalizing fuel with
  | nil =>
    obtain ⟨fuel, rfl⟩ : ∃ smaller, fuel = smaller + 1 := Nat.exists_eq_add_one.mpr (by omega)
    exact takes_whilst_nil hend
  | cons entry later ih =>
    obtain ⟨fuel, rfl⟩ : ∃ smaller, fuel = smaller + 1 := Nat.exists_eq_add_one.mpr (by omega)
    obtain ⟨hentry, htail⟩ := List.forall_mem_cons.mp hlater
    obtain ⟨⟨region, place, hcolons⟩, ⟨ident, spot, others, hstarts⟩, hsegment⟩ := hentry
    have hmark {behind : List TokenTree} : Takes (operator "::") closing
        [.punct ':' true region, .punct ':' false place] (double ':' ':' region place) behind := rfl
    have hfirst : Takes (laterSegment grammar) closing
        ([.punct ':' true region, .punct ':' false place] ++ entry.2.tokens)
        (double ':' ':' region place ++ [entry.2])
        (Tree.tokensAll (writtenSegments later) ++ rest) :=
      hmark.bind ((hsegment (endsSegment_of_path htail hrest)).finish (takes_pure _))
    have htokens : Tree.tokensAll (writtenSegments (entry :: later)) =
        [.punct ':' true region, .punct ':' false place] ++ entry.2.tokens
          ++ Tree.tokensAll (writtenSegments later) := by
      rw [tokens_segments, hcolons]
      rfl
    have htrees : writtenSegments (entry :: later) =
        double ':' ':' region place ++ [entry.2] ++ writtenSegments later := by
      rw [writtenSegments, List.flatMap_cons, hcolons, writtenSegments]
    rw [htokens, htrees]
    refine takes_whilst_cons ?_ hfirst (ih htail (by simpa using hfuel))
    rw [hstarts]
    exact htest _ _ _ _ _

/-- Every segment is written down. -/
theorem length_le_segments (later : List (List Tree × Tree))
    (hcolons : ∀ entry ∈ later, IsColons entry.1) :
    later.length ≤ (Tree.tokensAll (writtenSegments later)).length := by
  induction later with
  | nil => simp
  | cons entry later ih =>
    obtain ⟨⟨region, place, hentry⟩, htail⟩ := List.forall_mem_cons.mp hcolons
    have hlength := ih htail
    rw [tokens_segments, hentry]
    simp only [double, Tree.tokensAll_cons, Tree.tokens, List.length_append, List.length_cons]
    omega

theorem takes_path {grammar : Grammar} {root : List Tree} {first : Tree}
    {later : List (List Tree × Tree)} (hroot : root = [] ∨ IsColons root)
    (hfirst : SegmentComesBack grammar first)
    (hlater : ∀ entry ∈ later, IsColons entry.1 ∧ SegmentComesBack grammar entry.2)
    (hrest : Lacks ["<", "::"] rest) :
    Takes (path grammar false) closing
      (Tree.tokensAll root ++ (first.tokens ++ Tree.tokensAll (writtenSegments later)))
      (.node .path (root ++ first :: writtenSegments later)) rest := by
  obtain ⟨⟨ident, spot, others, hstarts⟩, hsegment⟩ := hfirst
  have hmark : Takes (operator? "::") closing (Tree.tokensAll root) root
      (first.tokens ++ Tree.tokensAll (writtenSegments later) ++ rest) := by
    rw [hstarts]
    rcases hroot with rfl | ⟨region, place, rfl⟩ <;> rfl
  have hend : furtherSegment rest = false := by simp [furtherSegment, hrest "::"]
  have hfuel := length_le_segments later fun entry hentry => (hlater entry hentry).1
  have hmany : Takes (many furtherSegment (laterSegment grammar)) closing
      (Tree.tokensAll (writtenSegments later)) (writtenSegments later) rest := by
    refine takes_ahead.look (takes_laterSegments hlater (fun _ _ _ _ _ => rfl) hrest hend ?_)
    rw [List.length_append]
    omega
  exact hmark.bind ((hsegment (endsSegment_of_path hlater hrest)).bind
    (hmany.finish (takes_pure _)))

/-! ## Types that start with a path -/

/-- What a type does not go on with; a sum may end it in some places only. -/
def typeMarks (sums : Bool) : List String := ["<", "::", "!", "#"] ++ if sums then ["+"] else []

theorem Lacks.mono {texts fewer : List String} (h : Lacks texts rest)
    (hfewer : ∀ text ∈ fewer, text ∈ texts) : Lacks fewer rest :=
  fun text htext => h text (hfewer text htext)

/-- No operator stands where no punctuation does. -/
theorem lacks_other {texts : List String}
    (htexts : (texts.all fun text => text.toList.head?.isSome) = true)
    (hrest : ∀ character joint region others, rest ≠ .punct character joint region :: others) :
    Lacks texts rest := by
  intro text htext
  have hsome := List.all_eq_true.mp htexts text htext
  cases hcharacters : text.toList with
  | nil => simp [hcharacters] at hsome
  | cons first others =>
    match rest with
    | .punct character joint region :: behind => exact absurd rfl (hrest _ _ _ _)
    | [] | .word _ _ :: _ | .literal _ _ :: _ | .group _ _ _ _ :: _ =>
      cases others <;> simp [Lookahead.operator, hcharacters, Lookahead.operatorChars]

theorem lacks_nil {texts : List String}
    (htexts : (texts.all fun text => text.toList.head?.isSome) = true) : Lacks texts [] :=
  lacks_other htexts (by simp)

theorem lacks_word {texts : List String} {ident : Ident} {region : Option Region}
    (htexts : (texts.all fun text => text.toList.head?.isSome) = true) :
    Lacks texts (.word ident region :: rest) :=
  lacks_other htexts (by simp)

theorem lacks_group {texts : List String} {delimiter : Delimiter} {opening ending : Option Region}
    {content : List TokenTree}
    (htexts : (texts.all fun text => text.toList.head?.isSome) = true) :
    Lacks texts (.group delimiter opening ending content :: rest) :=
  lacks_other htexts (by simp)

/-- An operator does not stand where another character does. -/
theorem lacks_punct {texts : List String} {character : Char} {joint : Bool} {region : Option Region}
    (htexts : (texts.all fun text => text.toList.head?.any (· != character)) = true) :
    Lacks texts (.punct character joint region :: rest) := by
  intro text htext
  have hother := List.all_eq_true.mp htexts text htext
  cases hcharacters : text.toList with
  | nil => simp [hcharacters] at hother
  | cons first others =>
    have hne : first ≠ character := by simpa [hcharacters] using hother
    cases others <;> simp [Lookahead.operator, hcharacters, Lookahead.operatorChars, hne.symm]

/-- A comma or the end of the arguments ends a type. -/
theorem lacks_of_boundEnd {sums : Bool} (h : parameterBoundEnd rest = true) :
    Lacks (typeMarks sums) rest := by
  match rest with
  | .punct character joint region :: others =>
    have hcharacter : character = ',' ∨ character = '>' := by
      simpa [parameterBoundEnd, Lookahead.operator, Lookahead.operatorChars] using h
    cases sums <;> rcases hcharacter with rfl | rfl <;> exact lacks_punct (by decide)
  | [] | .word _ _ :: _ | .literal _ _ :: _ | .group _ _ _ _ :: _ => cases h

/-- A path that starts with a word or a double colon is read as a type. -/
theorem takes_pathType {sums : Bool} {tokens : List TokenTree} {parts : List Tree}
    (hopens : OpensPath (tokens ++ rest))
    (hpath : Takes (path (within fuel) false) closing tokens (.node .path parts) rest)
    (hrest : Lacks (typeMarks sums) rest) :
    Takes (treeWithin (fuel + 1) (.type sums)) closing tokens (.node .typePath [.node .path parts])
      rest := by
  have hcall : macroFollows (.node .path parts) rest = false := by
    simp [macroFollows, hrest "!" (by simp [typeMarks])]
  have hsum : (sums && Lookahead.operator "+" rest) = false := by
    cases sums with
    | false => rfl
    | true => exact hrest "+" (by simp [typeMarks])
  have htype : Takes (pathType (within fuel) sums []) closing tokens
      (.node .typePath [.node .path parts]) rest := by
    refine Takes.finish (Takes.whether false hopens.not_angle hpath) ?_
    exact .ifFalse rfl (takes_ahead.look (.ifFalse hcall (.ifFalse hsum (takes_pure _))))
  have hbinder : Takes (binder? (within fuel)) closing [] [] (tokens ++ rest) :=
    Takes.whether false (hopens.not_keyword "for" rfl) (takes_pure [])
  have hkeywords : Lookahead.keywords ["fn", "unsafe", "extern"] (tokens ++ rest) = false := by
    simp [Lookahead.keywords, hopens.not_keyword "fn" rfl, hopens.not_keyword "unsafe" rfl,
      hopens.not_keyword "extern" rfl]
  exact takes_ahead.look (Takes.look hbinder (takes_ahead.look (.ifFalse rfl
    (.ifFalse hopens.not_builtin (.ifFalse (hopens.not_group _)
      (.ifFalse hkeywords (.ifTrue hopens.ahead htype)))))))

/-- The segments of a path behind the type that it starts at. -/
def qualifiedRest (grammar : Grammar) (head : List Tree) : Parser Tree := do
  let colons ← operator "::"
  let first ← pathSegment grammar false
  let rest ← many (Lookahead.operator "::") (laterSegment grammar)
  pure (.node .qualifiedPath (head ++ colons ++ first :: rest))

theorem takes_qualifiedRest {grammar : Grammar} {later : List (List Tree × Tree)}
    (head : List Tree) (hsome : later ≠ [])
    (hlater : ∀ entry ∈ later, IsColons entry.1 ∧ SegmentComesBack grammar entry.2)
    (hrest : Lacks ["<", "::"] rest) :
    Takes (qualifiedRest grammar head) closing (Tree.tokensAll (writtenSegments later))
      (.node .qualifiedPath (head ++ writtenSegments later)) rest := by
  obtain ⟨⟨colons, first⟩, later, rfl⟩ := List.exists_cons_of_ne_nil hsome
  obtain ⟨⟨⟨region, place, hcolons⟩, hfirst⟩, htail⟩ := List.forall_mem_cons.mp hlater
  dsimp only at hcolons hfirst
  subst hcolons
  have hfuel := length_le_segments later fun entry hentry => (htail entry hentry).1
  have hmark {others : List TokenTree} : Takes (operator "::") closing
      [.punct ':' true region, .punct ':' false place] (double ':' ':' region place) others := rfl
  have hmany : Takes (many (Lookahead.operator "::") (laterSegment grammar)) closing
      (Tree.tokensAll (writtenSegments later)) (writtenSegments later) rest := by
    refine takes_ahead.look (takes_laterSegments htail (fun _ _ _ _ _ => rfl) hrest
      (hrest "::" (by simp)) ?_)
    rw [List.length_append]
    omega
  have hparts : head ++ writtenSegments ((double ':' ':' region place, first) :: later) =
      head ++ double ':' ':' region place ++ first :: writtenSegments later := by
    simp [writtenSegments]
  rw [tokens_segments, hparts, List.append_assoc]
  exact hmark.bind ((hfirst.takes (endsSegment_of_path htail hrest)).bind
    (hmany.finish (takes_pure _)))

/-- A path behind a type in angle brackets is read as a type, with or without a trait. -/
theorem takes_qualifiedType {sums : Bool} {type : Tree} {trait : List Tree}
    {later : List (List Tree × Tree)} {opening ending : Option Region}
    (htype : ∀ others, Takes (within fuel).type closing type.tokens type
      (Tree.tokensAll trait ++ ([.punct '>' false ending] ++ others)))
    (htrait : trait = [] ∨ ∃ place tree, trait = [.leaf (.word (.plain "as") place), tree] ∧
      ∀ others, Takes (path (within fuel) false) closing tree.tokens tree
        ([.punct '>' false ending] ++ others))
    (hsome : later ≠ [])
    (hlater : ∀ entry ∈ later, IsColons entry.1 ∧ SegmentComesBack (within fuel) entry.2)
    (hrest : Lacks ["<", "::"] rest) :
    Takes (treeWithin (fuel + 1) (.type sums)) closing ([.punct '<' false opening]
        ++ (type.tokens ++ (Tree.tokensAll trait
          ++ ([.punct '>' false ending] ++ Tree.tokensAll (writtenSegments later)))))
      (.node .typePath [.node .qualifiedPath ([single '<' opening] ++ type :: trait
        ++ [single '>' ending] ++ writtenSegments later)]) rest := by
  have hopening {others : List TokenTree} : Takes (operator "<") closing
      [.punct '<' false opening] [single '<' opening] others := rfl
  have hending {others : List TokenTree} : Takes (operator ">") closing
      [.punct '>' false ending] [single '>' ending] others := rfl
  have hbehind (head : List Tree) : Takes (operator ">" >>= fun closing =>
      qualifiedRest (within fuel) (head ++ closing)) closing
      ([.punct '>' false ending] ++ Tree.tokensAll (writtenSegments later))
      (.node .qualifiedPath (head ++ [single '>' ending] ++ writtenSegments later)) rest :=
    hending.bind (takes_qualifiedRest _ hsome hlater hrest)
  have hinner := htype (Tree.tokensAll (writtenSegments later) ++ rest)
  rw [← List.append_assoc [_], ← List.append_assoc] at hinner
  have hpath : Takes (qualifiedPath (within fuel) false) closing ([.punct '<' false opening]
        ++ (type.tokens ++ (Tree.tokensAll trait
          ++ ([.punct '>' false ending] ++ Tree.tokensAll (writtenSegments later)))))
      (.node .qualifiedPath ([single '<' opening] ++ type :: trait ++ [single '>' ending]
        ++ writtenSegments later)) rest := by
    refine Takes.whether true rfl (hopening.bind (Takes.bind hinner ?_))
    rcases htrait with rfl | ⟨place, tree, rfl, htree⟩
    · exact Takes.whether false rfl (Takes.look (takes_pure []) (hbehind _))
    · have hword {others : List TokenTree} : Takes (keyword "as") closing
          [.word (.plain "as") place] [.leaf (.word (.plain "as") place)] others := rfl
      have htrait := htree (Tree.tokensAll (writtenSegments later) ++ rest)
      rw [Tree.tokensAll_cons, Tree.tokensAll_cons, Tree.tokensAll_nil, List.append_nil,
        List.append_assoc]
      rw [← List.append_assoc] at htrait
      exact Takes.whether true rfl (hword.bind (htrait.bind (Takes.look (takes_pure _)
        (hbehind _))))
  have hpathType : Takes (pathType (within fuel) sums []) closing ([.punct '<' false opening]
        ++ (type.tokens ++ (Tree.tokensAll trait
          ++ ([.punct '>' false ending] ++ Tree.tokensAll (writtenSegments later)))))
      (.node .typePath [.node .qualifiedPath ([single '<' opening] ++ type :: trait
        ++ [single '>' ending] ++ writtenSegments later)]) rest :=
    hpath.finish (.ifTrue rfl (takes_pure _))
  exact takes_ahead.look (Takes.look rfl (takes_ahead.look (.ifFalse rfl (.ifFalse rfl
    (.ifFalse rfl (.ifFalse rfl (.ifTrue rfl hpathType)))))))

end Grammar

end Counterpart
