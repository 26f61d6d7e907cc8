import Counterpart.Proofs.LeavingHost

/-!
# Reading back

Code that was read is written down by its leaves. A parser takes tokens if it reads them as a value,
up to what stands behind them. Steps that take tokens in turn take all of them, so a parser is
shown to take the tokens of a value step by step, each step being told what stands behind it. What
a rule takes of the constructs that it refers to is left open here: they are read back as whatever
the grammar finds in their tokens.
-/

namespace Counterpart

namespace Parser

variable {α β : Type}

/-- The parser reads the given tokens as the value, in front of the rest of a group that ends at the
given place. -/
def Takes (parser : Parser α) (closing : Option Region) (tokens : List TokenTree) (value : α)
    (rest : List TokenTree) : Prop :=
  parser ⟨tokens ++ rest, closing, none⟩ = .ok (value, ⟨rest, closing, none⟩)

variable {closing : Option Region} {first second tokens rest : List TokenTree}

/-- What two steps take in turn is taken by both. -/
theorem Takes.bind {parser : Parser α} {next : α → Parser β} {value : α} {answer : β}
    (h : Takes parser closing first value (second ++ rest))
    (hnext : Takes (next value) closing second answer rest) :
    Takes (parser >>= next) closing (first ++ second) answer rest := by
  rw [Takes, List.append_assoc]
  change (parser ⟨first ++ (second ++ rest), closing, none⟩ >>=
    fun (value, after) => next value after) = _
  rw [h]
  exact hnext

/-- A step that only looks ahead takes nothing. -/
theorem Takes.look {parser : Parser α} {next : α → Parser β} {value : α} {answer : β}
    (h : Takes parser closing [] value (tokens ++ rest))
    (hnext : Takes (next value) closing tokens answer rest) :
    Takes (parser >>= next) closing tokens answer rest :=
  h.bind hnext

/-- What a step takes is all that is taken if nothing is behind it. -/
theorem Takes.finish {parser : Parser α} {next : α → Parser β} {value : α} {answer : β}
    (h : Takes parser closing tokens value rest)
    (hnext : Takes (next value) closing [] answer rest) :
    Takes (parser >>= next) closing tokens answer rest := by
  rw [← List.append_nil tokens]
  exact h.bind hnext

theorem takes_pure (value : α) : Takes (pure value) closing [] value rest := rfl

theorem takes_ahead : Takes ahead closing [] rest rest := rfl

theorem takes_looking (test : List TokenTree → Bool) :
    Takes (looking test) closing [] (test rest) rest := rfl

/-- A step that tests what stands ahead takes nothing. -/
theorem Takes.whether {test : List TokenTree → Bool} {next : Bool → Parser β} {answer : β}
    (found : Bool) (htest : test (tokens ++ rest) = found)
    (hnext : Takes (next found) closing tokens answer rest) :
    Takes (looking test >>= next) closing tokens answer rest := by
  subst htest
  exact Takes.look (takes_looking test) hnext

theorem Takes.ifTrue {parser other : Parser α} {value : α} {condition : Bool}
    (hcondition : condition = true) (h : Takes parser closing tokens value rest) :
    Takes (if condition then parser else other) closing tokens value rest := by
  rwa [if_pos hcondition]

theorem Takes.ifFalse {parser other : Parser α} {value : α} {condition : Bool}
    (hcondition : condition = false) (h : Takes parser closing tokens value rest) :
    Takes (if condition then other else parser) closing tokens value rest := by
  rwa [if_neg (Bool.eq_false_iff.mp hcondition)]

/-- What is done with a value takes no tokens. -/
theorem Takes.map {parser : Parser α} {value : α} (h : Takes parser closing tokens value rest)
    (use : α → β) : Takes (use <$> parser) closing tokens (use value) rest := by
  rw [map_eq_pure_bind]
  exact h.finish (takes_pure (use value))

/-- What takes all tokens of some code reads it. -/
theorem Takes.runAll {parser : Parser α} {value : α} (h : Takes parser none tokens value []) :
    runAll parser tokens = .ok value := by
  rw [Takes, List.append_nil] at h
  rw [Parser.runAll, Cursor.ofTokens, h]
  rfl

/-! ## Single tokens -/

/-- An operator of a single character, which stands alone once it was read. -/
def single (character : Char) (region : Option Region) : Tree :=
  .leaf (.punct character false region)

theorem takes_operator {text : String} {character : Char} (htext : text.toList = [character])
    (hquote : character ≠ '\'') (region : Option Region) :
    Takes (operator text) closing [.punct character false region] [single character region]
      rest := by
  simp [Takes, operator, htext, operatorLeaves?, hquote, single]

/-- An operator that does not stand ahead is not read. -/
theorem takes_operator?_none {text : String} (h : Lookahead.operator text rest = false) :
    Takes (operator? text) closing [] [] rest := by
  exact Takes.whether false h (takes_pure [])

theorem takes_name {ident : Located Ident} (h : ident.value.isName = true) :
    Takes name closing [.word ident.value ident.region] ident rest := by
  simp [Takes, name, h]

theorem takes_nameLeaf {ident : Located Ident} (h : ident.value.isName = true) :
    Takes nameLeaf closing [.word ident.value ident.region] (Tree.name ident) rest :=
  (takes_name h).map Tree.name

theorem takes_lifetime (joint : Bool) (region place : Option Region) (ident : Ident) :
    Takes lifetime closing [.punct '\'' joint region, .word ident place]
      (.node .lifetime [.leaf (.punct '\'' joint region), .leaf (.word ident place)]) rest := rfl

theorem takes_keyword {word : String} {ident : Ident} (h : ident.isWord word = true)
    (region : Option Region) :
    Takes (keyword word) closing [.word ident region] [.leaf (.word ident region)] rest := by
  simp [Takes, keyword, TokenTree.isWord, h]

theorem takes_anyWord (ident : Located Ident) :
    Takes anyWord closing [.word ident.value ident.region] ident rest := rfl

/-- What fills a group is taken with its delimiters. -/
theorem takes_inside {parser : Parser α} {value : α} {delimiter : Delimiter}
    {opening ending : Option Region} (h : Takes parser ending tokens value []) :
    Takes (inside delimiter parser) closing [.group delimiter opening ending tokens]
      (value, opening, ending) rest := by
  rw [Takes, List.append_nil] at h
  simp [Takes, inside, h, unreadAt]

/-! ## Repetitions -/

theorem takes_whilst_nil {fuel : Nat} {test : List TokenTree → Bool} {parser : Parser (List Tree)}
    (htest : test rest = false) : Takes (whilst (fuel + 1) test parser) closing [] [] rest :=
  Takes.whether false htest (takes_pure [])

theorem takes_whilst_cons {fuel : Nat} {test : List TokenTree → Bool} {parser : Parser (List Tree)}
    {trees later : List Tree} (htest : test (first ++ (second ++ rest)) = true)
    (hfirst : Takes parser closing first trees (second ++ rest))
    (hsecond : Takes (whilst fuel test parser) closing second later rest) :
    Takes (whilst (fuel + 1) test parser) closing (first ++ second) (trees ++ later) rest := by
  rw [← List.append_assoc] at htest
  exact Takes.whether true htest (hfirst.bind (hsecond.finish (takes_pure _)))

/-! ## Sums -/

/-- How the pieces of a sum are read back, each in front of what stands behind it. The signs between
them stay. -/
inductive SumReadsBack (piece : Parser Tree) (stop : List TokenTree → Bool)
    (rest : List TokenTree) : List Tree → List Tree → Prop
  | nil : SumReadsBack piece stop rest [] []
  | last {first answer : Tree} (hahead : stop (first.tokens ++ rest) = false)
      (hfirst : Takes piece none first.tokens answer rest) :
    SumReadsBack piece stop rest [first] [answer]
  | more {first answer : Tree} {pieces answers : List Tree} {region : Option Region}
      (hahead : stop (first.tokens
        ++ (Tree.tokensAll (single '+' region :: pieces) ++ rest)) = false)
      (hfirst : Takes piece none first.tokens answer
        (Tree.tokensAll (single '+' region :: pieces) ++ rest))
      (hpieces : SumReadsBack piece stop rest pieces answers) :
    SumReadsBack piece stop rest (first :: single '+' region :: pieces)
      (answer :: single '+' region :: answers)

variable {piece : Parser Tree} {stop : List TokenTree → Bool} {before after : List Tree}

theorem takes_sumLoop {fuel : Nat} (h : SumReadsBack piece stop rest before after)
    (hstop : stop rest = true) (hplus : Lookahead.operator "+" rest = false)
    (hfuel : before.length < 2 * fuel) :
    Takes (sumLoop fuel stop do return [← piece]) none (Tree.tokensAll before) after rest := by
  induction h generalizing fuel with
  | nil =>
    obtain ⟨fuel, rfl⟩ : ∃ smaller, fuel = smaller + 1 := Nat.exists_eq_add_one.mpr (by omega)
    rw [Tree.tokensAll_nil]
    exact Takes.whether true hstop (takes_pure [])
  | @last first answer hahead hfirst =>
    obtain ⟨fuel, rfl⟩ : ∃ smaller, fuel = smaller + 1 := Nat.exists_eq_add_one.mpr (by omega)
    rw [Tree.tokensAll_cons, Tree.tokensAll_nil]
    have hpiece : stop (first.tokens ++ [] ++ rest) = false := by rwa [List.append_nil]
    refine Takes.whether false hpiece ((hfirst.map fun tree => [tree]).bind ?_)
    exact Takes.whether false hplus (takes_pure [answer])
  | @more first answer pieces answers region hahead hfirst hpieces ih =>
    obtain ⟨fuel, rfl⟩ : ∃ smaller, fuel = smaller + 1 := Nat.exists_eq_add_one.mpr (by omega)
    have hfuel : pieces.length < 2 * fuel := by
      simp only [List.length_cons] at hfuel
      omega
    have hrest := ih hfuel
    have hsign : Takes (operator "+") none [.punct '+' false region] [single '+' region]
        (Tree.tokensAll pieces ++ rest) := takes_operator rfl (by decide) region
    rw [← List.append_assoc] at hahead
    refine Takes.whether false hahead ((hfirst.map fun tree => [tree]).bind ?_)
    refine Takes.whether true rfl (hsign.bind ?_)
    exact hrest.finish (takes_pure _)

/-- Every piece but the last has a sign behind it. -/
theorem SumReadsBack.length_le (h : SumReadsBack piece stop rest before after) :
    before.length ≤ 2 * (Tree.tokensAll before).length + 1 := by
  induction h with
  | nil => simp
  | last => simp
  | more hahead hfirst hpieces ih =>
    simp only [single, Tree.tokensAll_cons, Tree.tokens, List.length_cons, List.length_append]
    omega

theorem takes_sumUntil (h : SumReadsBack piece stop rest before after) (hstop : stop rest = true)
    (hplus : Lookahead.operator "+" rest = false) :
    Takes (sumUntil stop do return [← piece]) none (Tree.tokensAll before) after rest := by
  refine takes_ahead.look (takes_sumLoop h hstop hplus ?_)
  have hlength := h.length_le
  rw [List.length_append]
  omega

/-- Trees with plus signs between them, one of which may end the sum. -/
inductive IsSum (IsPiece : Tree → Prop) : List Tree → Prop
  | nil : IsSum IsPiece []
  | last {first : Tree} (hfirst : IsPiece first) : IsSum IsPiece [first]
  | more {first : Tree} {pieces : List Tree} {region : Option Region} (hfirst : IsPiece first)
      (hpieces : IsSum IsPiece pieces) : IsSum IsPiece (first :: single '+' region :: pieces)

/-! ## What was read -/

section Read

variable {cursor behind : Cursor} {leaves : List Tree}

theorem exists_of_operator {text : String} (character : Char) (htext : text.toList = [character])
    (h : operator text cursor = .ok (leaves, behind)) :
    ∃ region, leaves = [single character region] := by
  unfold operator at h
  rw [htext] at h
  split at h
  · next found others hleaves =>
    cases h
    match hcursor : cursor.rest with
    | .punct found joint region :: others =>
      rw [hcursor, operatorLeaves?] at hleaves
      split at hleaves
      · next hcharacter =>
        cases hleaves
        rw [hcharacter.1]
        exact ⟨region, rfl⟩
      · cases hleaves
    | [] | .word _ _ :: _ | .literal _ _ :: _ | .group _ _ _ _ :: _ =>
      rw [hcursor] at hleaves
      cases hleaves
  · cases h

theorem exists_of_operator? {text : String} (character : Char) (htext : text.toList = [character])
    (h : operator? text cursor = .ok (leaves, behind)) :
    leaves = [] ∨ ∃ region, leaves = [single character region] := by
  obtain ⟨stands, same, -, h⟩ := exists_of_bind h
  cases stands with
  | false =>
    cases h
    exact .inl rfl
  | true => exact .inr (exists_of_operator character htext h)

theorem exists_of_keyword {word : String} (h : keyword word cursor = .ok (leaves, behind)) :
    ∃ region, leaves = [.leaf (.word (.plain word) region)] := by
  unfold keyword at h
  split at h
  · next token rest hrest =>
    split at h
    · next hword =>
      cases h
      cases token with
      | word ident region =>
        rw [TokenTree.isWord, Ident.isWord_iff] at hword
        exact ⟨region, by rw [hword]⟩
      | punct | literal | group => cases hword
    · cases h
  · cases h

/-- A sum is read as pieces with plus signs between them. -/
theorem isSum_of_sumLoop {IsPiece : Tree → Prop} {fuel : Nat}
    (hpiece : ∀ {start tree next}, piece start = .ok (tree, next) → IsPiece tree)
    (h : sumLoop fuel stop (do return [← piece]) cursor = .ok (leaves, behind)) :
    IsSum IsPiece leaves := by
  induction fuel generalizing cursor leaves with
  | zero =>
    cases h
    exact .nil
  | succ fuel ih =>
    obtain ⟨stops, same, -, h⟩ := exists_of_bind h
    cases stops with
    | true =>
      cases h
      exact .nil
    | false =>
      obtain ⟨pieces, next, hfirst, h⟩ := exists_of_bind h
      obtain ⟨first, last, hfirst, hpure⟩ := exists_of_bind hfirst
      cases hpure
      obtain ⟨more, same, -, h⟩ := exists_of_bind h
      cases more with
      | false =>
        cases h
        exact .last (hpiece hfirst)
      | true =>
        obtain ⟨plus, next, hplus, h⟩ := exists_of_bind h
        obtain ⟨region, rfl⟩ := exists_of_operator '+' rfl hplus
        obtain ⟨rest, last, hrest, h⟩ := exists_of_bind h
        cases h
        exact .more (hpiece hfirst) (ih hrest)

theorem isSum_of_sumUntil {IsPiece : Tree → Prop}
    (hpiece : ∀ {start tree next}, piece start = .ok (tree, next) → IsPiece tree)
    (h : sumUntil stop (do return [← piece]) cursor = .ok (leaves, behind)) :
    IsSum IsPiece leaves := by
  obtain ⟨tokens, same, -, h⟩ := exists_of_bind h
  exact isSum_of_sumLoop hpiece h

end Read

/-! ## Lifetimes -/

/-- A lifetime as it is read. -/
def IsLifetime (tree : Tree) : Prop :=
  ∃ joint region ident place,
    tree = .node .lifetime [.leaf (.punct '\'' joint region), .leaf (.word ident place)]

theorem IsLifetime.takes {tree : Tree} (h : IsLifetime tree) :
    Takes lifetime closing tree.tokens tree rest := by
  obtain ⟨joint, region, ident, place, rfl⟩ := h
  exact takes_lifetime joint region place ident

/-- Lifetimes are read back as themselves, wherever they do not end the sum. -/
theorem IsSum.readsBack (h : IsSum IsLifetime before)
    (hstop : ∀ joint region others, stop (.punct '\'' joint region :: others) = false) :
    SumReadsBack lifetime stop rest before before := by
  have hahead {tree : Tree} (hlifetime : IsLifetime tree) (others : List TokenTree) :
      stop (tree.tokens ++ others) = false := by
    obtain ⟨joint, region, ident, place, rfl⟩ := hlifetime
    exact hstop joint region _
  induction h with
  | nil => exact .nil
  | last hfirst => exact .last (hahead hfirst _) hfirst.takes
  | more hfirst hpieces ih => exact .more (hahead hfirst _) hfirst.takes ih

end Parser

end Counterpart
