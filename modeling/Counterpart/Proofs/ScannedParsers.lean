import Counterpart.Proofs.FormedExpressions
import Counterpart.Proofs.ScannedCode

/-!
# Readers of covered code

What it is for a reader to read covered code, and that the basic readers do. A reader begins where a
scan goes on, where it would find a first word, or where in addition no colon stands in front. It
ends where one of these holds as well, and what it has read is covered. A word that is read last may
stand in front of the mark of a label, where the scan does not find it, so some readers only promise
that what they have read is covered if no such mark follows.

There is one predicate on the places in front of and behind a reader for each way in which this is
handed on, and each reader has a specification in these terms. Its proof follows the steps of the
reader: each hands on to the next what its own specification says. Nothing in that is arithmetic, so
`grind` chains the predicates without its solvers for it.
-/

set_option mvcgen.warning false

open Std.Do Counterpart.Occurrence Counterpart.Scan Counterpart.Parser

namespace Counterpart

namespace Parser

variable [Scan]

/-! ## What is read -/

/-- What is read where a scan goes on is covered, and the scan is ready behind it. -/
@[grind] def Reads (first : Cursor) (covered : Prop) (second : Cursor) : Prop :=
  second.unread = none → first.unread = none ∧ (Seen first.rest → Fresh second.rest ∧ covered)

/-- What is read begins in no mark of a label, is covered, and the scan is ready behind it. -/
@[grind] def Closes (first : Cursor) (covered : Prop) (second : Cursor) : Prop :=
  isLabel first.rest = false ∧ Reads first covered second

theorem Closes.mono {first second : Cursor} {covered wanted : Prop}
    (h : Closes first covered second) (himplies : covered → wanted) :
    Closes first wanted second := by
  grind -ring -linarith

/-- What is read, if anything is, is covered, and the scan knows as much behind it. -/
@[grind] def Passes (first : Cursor) (covered : Prop) (second : Cursor) : Prop :=
  second.unread = none → first.unread = none ∧
    (Seen first.rest → Seen second.rest ∧ covered) ∧
    (Ready first.rest → Ready second.rest) ∧ (Fresh first.rest → Fresh second.rest)

/-- What is read where a scan is ready is covered, unless it stands in front of a label's mark. -/
@[grind] def Settles (first : Cursor) (covered : Prop) (second : Cursor) : Prop :=
  second.unread = none → first.unread = none ∧
    (Ready first.rest → Fresh second.rest ∧ (isLabel second.rest = false → covered))

/-- What is read is covered, and a scan goes on behind it. -/
@[grind] def Goes (first : Cursor) (covered : Prop) (second : Cursor) : Prop :=
  second.unread = none → first.unread = none ∧ (Seen first.rest → Seen second.rest ∧ covered)

/-- Pieces that are read are covered, unless the last stands in front of a label's mark. -/
@[grind] def Lists (first : Cursor) (covered : Prop) (second : Cursor) : Prop :=
  second.unread = none → first.unread = none ∧
    (Fresh first.rest → Seen second.rest ∧ (isLabel second.rest = false → covered))

/-- Pieces that are read in a row are covered. -/
@[grind] def Runs (first : Cursor) (covered : Prop) (second : Cursor) : Prop :=
  second.unread = none → first.unread = none ∧ (Fresh first.rest → Fresh second.rest ∧ covered)

/-- What is read as the content of a group is covered. -/
@[grind] def Fills (first : Cursor) (covered : Prop) (second : Cursor) : Prop :=
  second.unread = none → first.unread = none ∧ (Fresh first.rest → second.rest = [] → covered)

/-- If something is so in front of what is read, then something is so behind it. -/
@[grind] def Leads (first : Cursor) (before after : Prop) (second : Cursor) : Prop :=
  second.unread = none → first.unread = none ∧ (before → after)

/-- A word that is read is found, unless it stands in front of a label's mark. -/
@[grind] def Names (first : Cursor) (ident : Located Ident) (second : Cursor) : Prop :=
  Closes first True second ∧ (Ready first.rest → isLabel second.rest = false → finds ident)

/-! ## Operators -/

/-- Whether a word behind the characters is no field and no segment of a path. -/
@[grind] def endsOpen : List Char → Bool
  | [] => false
  | [last] => last != '.' && last != ':'
  | first :: second :: rest =>
    first == '.' && second == '.' && rest.isEmpty || endsOpen (second :: rest)

/-- Whether the characters are no mark of a label. -/
@[grind] def clears : List Char → Bool
  | [] => false
  | [only] => only != ':' && only != '='
  | _ :: _ :: _ => true

/-- What the characters of an operator are to a scan. -/
structure ReadsMark (characters : List Char) (tokens : List TokenTree) (leaves : List Tree)
    (remaining : List TokenTree) : Prop where
  covered : CoversAll leaves
  uncalled : FindsCalls leaves
  nonempty : leaves = [] → characters = []
  unlabelled : clears characters = true → isLabel tokens = false
  seen : Seen tokens → Seen remaining
  fresh : Seen tokens → endsOpen characters = true → Fresh remaining
  ready : Fresh tokens → characters = [':'] → Ready remaining
  colon : characters = [':'] → ∀ rest, Tree.startsWithColon (leaves ++ rest) = true

omit [Scan] in
theorem tokens_of_single {character : Char} {tokens remaining : List TokenTree}
    {leaves : List Tree} (h : operatorLeaves? [character] tokens = some (leaves, remaining)) :
    ∃ joint region, tokens = .punct character joint region :: remaining := by
  cases tokens with
  | nil => cases h
  | cons token rest =>
    cases token with
    | punct found joint region =>
      rw [operatorLeaves?] at h
      split_ifs at h with hcharacter
      obtain ⟨rfl, -⟩ := hcharacter
      obtain ⟨-, rfl⟩ := Prod.mk.inj (Option.some.inj h)
      exact ⟨joint, region, rfl⟩
    | _ => cases h

theorem operatorLeaves_reads {characters : List Char} {tokens remaining : List TokenTree}
    {leaves : List Tree} (h : operatorLeaves? characters tokens = some (leaves, remaining)) :
    ReadsMark characters tokens leaves remaining := by
  fun_induction operatorLeaves? characters tokens generalizing leaves remaining with
  | case1 rest =>
    obtain ⟨rfl, rfl⟩ := Option.some.inj h
    constructor <;> simp [clears, endsOpen]
  | case2 last character joint region rest hcharacter =>
    obtain ⟨rfl, rfl⟩ := Option.some.inj h
    obtain ⟨rfl, -⟩ := hcharacter
    constructor
    case covered => simp
    case uncalled => simp
    case nonempty => nofun
    case unlabelled =>
      intro hclears
      simp [clears] at hclears
      simp [isLabel, hclears]
    case seen => exact seen_of_punct
    case fresh =>
      intro hseen hopen
      simp [endsOpen] at hopen
      exact fresh_of_punct hseen hopen.1 hopen.2
    case ready =>
      intro hfresh hcolon
      cases hcolon
      exact ready_of_punct hfresh (by decide)
    case colon =>
      intro hcolon rest
      cases hcolon
      rfl
  | case3 => cases h
  | case4 wanted more character joint region rest hmore hcharacter ih =>
    obtain ⟨rfl, hjoint, -⟩ := hcharacter
    obtain ⟨⟨inner, after⟩, hinner, heq⟩ := Option.map_eq_some_iff.mp h
    obtain ⟨rfl, rfl⟩ := heq
    have hread := ih hinner
    constructor
    case covered => exact coversAll_cons.mpr ⟨covers_leaf.mpr trivial, hread.covered⟩
    case uncalled => exact findsCalls_cons.mpr ⟨findsCall_punct.mpr trivial, hread.uncalled⟩
    case nonempty => nofun
    case unlabelled => simp [isLabel, hjoint]
    case seen => exact fun hseen => hread.seen (seen_of_punct hseen)
    case fresh =>
      intro hseen hopen
      obtain _ | ⟨next, more⟩ := more
      · exact (hmore rfl).elim
      rw [endsOpen, Bool.or_eq_true] at hopen
      obtain hdots | hopen := hopen
      · simp only [Bool.and_eq_true, beq_iff_eq, List.isEmpty_iff] at hdots
        obtain ⟨⟨rfl, rfl⟩, rfl⟩ := hdots
        obtain ⟨joint, region, rfl⟩ := tokens_of_single hinner
        subst hjoint
        exact fresh_of_dots hseen
      · exact hread.fresh (seen_of_punct hseen) hopen
    case ready =>
      intro _ hcolon
      cases hcolon
      exact (hmore rfl).elim
    case colon =>
      intro hcolon
      cases hcolon
      exact (hmore rfl).elim
  | case5 => cases h
  | case6 => cases h

/-- What an operator is to a scan. -/
@[grind] def ReadsOperator (text : String) (first : Cursor) (trees : List Tree)
    (second : Cursor) : Prop :=
  second.unread = first.unread ∧ CoversAll trees ∧ FindsCalls trees ∧
    (trees = [] → text.toList = []) ∧ (clears text.toList = true → isLabel first.rest = false) ∧
    (Seen first.rest → Seen second.rest) ∧
    (Seen first.rest → endsOpen text.toList = true → Fresh second.rest) ∧
    (Fresh first.rest → text.toList = [':'] → Ready second.rest) ∧
    (text.toList = [':'] → ∀ rest, Tree.startsWithColon (trees ++ rest) = true)

@[spec] theorem operator_spec (text : String) (c₀ : Cursor) :
    ⦃fun c => ⌜c = c₀⌝⦄ operator text ⦃⇓? v c => ⌜ReadsOperator text c₀ v c⌝⦄ := by
  refine triple_iff.mpr fun v c h => ?_
  rw [operator] at h
  split at h
  · rename_i leaves rest hleaves
    obtain ⟨rfl, rfl⟩ := h
    obtain ⟨hcovered, huncalled, hnonempty, hunlabelled, hseen, hfresh, hready, hcolon⟩ :=
      operatorLeaves_reads hleaves
    exact ⟨rfl, hcovered, huncalled, hnonempty, hunlabelled, hseen, hfresh, hready, hcolon⟩
  · cases h

omit [Scan] in
/-- An operator ahead is no mark of a label, unless it can be one. -/
theorem isLabel_of_ahead {text : String} {tokens : List TokenTree}
    (h : Lookahead.operator text tokens = true) (hclears : clears text.toList = true) :
    isLabel tokens = false := by
  rw [Lookahead.operator] at h
  generalize text.toList = characters at h hclears
  fun_cases Lookahead.operatorChars characters tokens with
  | case1 => cases hclears
  | case2 last character joint region rest =>
    obtain rfl : character = last := by simpa [Lookahead.operatorChars] using h
    simp only [clears, Bool.and_eq_true, bne_iff_ne] at hclears
    simp [isLabel, hclears]
  | case3 wanted more character joint region rest hmore =>
    rw [Lookahead.operatorChars] at h
    · simp only [Bool.and_eq_true] at h
      simp [isLabel, h]
    · exact hmore
  | case4 wanted more hone hmany =>
    rw [Lookahead.operatorChars] at h
    · cases h
    all_goals assumption

/-! ## Single tokens -/

omit [Scan] in
@[spec] theorem looking_spec (test : List TokenTree → Bool) (c₀ : Cursor) :
    ⦃fun c => ⌜c = c₀⌝⦄ looking test ⦃⇓? v c => ⌜c = c₀ ∧ v = test c₀.rest⌝⦄ := by
  refine triple_iff.mpr fun v c h => ?_
  cases h
  exact ⟨rfl, rfl⟩

omit [Scan] in
@[spec] theorem ahead_spec (c₀ : Cursor) :
    ⦃fun c => ⌜c = c₀⌝⦄ ahead ⦃⇓? v c => ⌜c = c₀ ∧ v = c₀.rest⌝⦄ := by
  refine triple_iff.mpr fun v c h => ?_
  cases h
  exact ⟨rfl, rfl⟩

omit [Scan] in
@[spec] theorem atEnd_spec (c₀ : Cursor) :
    ⦃fun c => ⌜c = c₀⌝⦄ atEnd ⦃⇓? v c => ⌜c = c₀ ∧ v = c₀.rest.isEmpty⌝⦄ :=
  looking_spec List.isEmpty c₀

omit [Scan] in
@[spec] theorem failWith_spec {α : Type} (complaint : Complaint) (c₀ : Cursor) :
    ⦃fun c => ⌜c = c₀⌝⦄ (failWith complaint : Parser α) ⦃⇓? _ _ => ⌜False⌝⦄ :=
  triple_iff.mpr nofun

omit [Scan] in
@[spec] theorem failOn_spec {α : Type} (trees : List Tree) (complaint : Complaint) (c₀ : Cursor) :
    ⦃fun c => ⌜c = c₀⌝⦄ (failOn trees complaint : Parser α) ⦃⇓? _ _ => ⌜False⌝⦄ :=
  triple_iff.mpr nofun

omit [Scan] in
@[spec] theorem wantingNothing_spec {α : Type} (c₀ : Cursor) :
    ⦃fun c => ⌜c = c₀⌝⦄ (wantingNothing : Parser α) ⦃⇓? _ _ => ⌜False⌝⦄ :=
  triple_iff.mpr nofun

omit [Scan] in
@[spec] theorem wanting_spec {α : Type} (pieces : List String) (c₀ : Cursor) :
    ⦃fun c => ⌜c = c₀⌝⦄ (wanting pieces : Parser α) ⦃⇓? _ _ => ⌜False⌝⦄ :=
  triple_iff.mpr nofun

omit [Scan] in
@[spec] theorem wantingKeywords_spec {α : Type} (words pieces : List String) (c₀ : Cursor) :
    ⦃fun c => ⌜c = c₀⌝⦄ (wantingKeywords words pieces : Parser α) ⦃⇓? _ _ => ⌜False⌝⦄ :=
  triple_iff.mpr nofun

@[spec] theorem operator?_spec (text : String) (c₀ : Cursor) :
    ⦃fun c => ⌜c = c₀⌝⦄ operator? text
      ⦃⇓? v c => ⌜CoversAll v ∧ (v = [] ∧ c = c₀ ∨ ReadsOperator text c₀ v c)⌝⦄ := by
  mvcgen [operator?] <;> grind -ring -linarith

omit [Scan] in
theorem word_of_keyword {word : String} {token : TokenTree} (h : token.isWord word = true) :
    ∃ ident region, token = .word ident region := by
  cases token with
  | word ident region => exact ⟨ident, region, rfl⟩
  | _ => cases h

theorem closes_of_word {c₀ : Cursor} {covered : Prop} {ident : Ident} {region : Option Region}
    {rest : List TokenTree} (h : c₀.rest = .word ident region :: rest) (hcovered : covered) :
    Closes c₀ covered { c₀ with rest } := by
  rw [Closes, Reads, h]
  exact ⟨rfl, fun hread => ⟨hread, fun hseen => ⟨fresh_of_word hseen, hcovered⟩⟩⟩

@[spec] theorem keyword_spec (word : String) (c₀ : Cursor) :
    ⦃fun c => ⌜c = c₀⌝⦄ keyword word ⦃⇓? v c => ⌜Closes c₀ (CoversAll v) c⌝⦄ := by
  refine triple_iff.mpr fun v c h => ?_
  rw [keyword] at h
  split at h
  · rename_i token rest hrest
    split at h
    · rename_i hword
      obtain ⟨ident, region, rfl⟩ := word_of_keyword hword
      cases h
      exact closes_of_word hrest (by simp)
    · cases h
  · cases h

@[spec] theorem keyword?_spec (word : String) (c₀ : Cursor) :
    ⦃fun c => ⌜c = c₀⌝⦄ keyword? word ⦃⇓? v c => ⌜Passes c₀ (CoversAll v) c⌝⦄ := by
  mvcgen [keyword?] <;> grind -ring -linarith

theorem names_of_word {c₀ : Cursor} {ident : Ident} {region : Option Region}
    {rest : List TokenTree} (h : c₀.rest = .word ident region :: rest) :
    Names c₀ ⟨ident, region⟩ { c₀ with rest } := by
  refine ⟨closes_of_word h trivial, fun hready hlabel => ?_⟩
  rw [h] at hready
  exact finds_of_word hready hlabel

@[spec] theorem name_spec (c₀ : Cursor) :
    ⦃fun c => ⌜c = c₀⌝⦄ name ⦃⇓? v c => ⌜Names c₀ v c⌝⦄ := by
  refine triple_iff.mpr fun v c h => ?_
  rw [name] at h
  split at h
  · rename_i ident region rest hrest
    split at h
    · cases h
      exact names_of_word hrest
    · cases h
  · cases h

@[spec] theorem anyWord_spec (c₀ : Cursor) :
    ⦃fun c => ⌜c = c₀⌝⦄ anyWord ⦃⇓? v c => ⌜Names c₀ v c⌝⦄ := by
  refine triple_iff.mpr fun v c h => ?_
  rw [anyWord] at h
  split at h
  · rename_i ident region rest hrest
    cases h
    exact names_of_word hrest
  · cases h

@[spec] theorem nameLeaf_spec (c₀ : Cursor) :
    ⦃fun c => ⌜c = c₀⌝⦄ nameLeaf ⦃⇓? v c => ⌜Closes c₀ (Covers v) c⌝⦄ := by
  mvcgen [nameLeaf]
  grind -ring -linarith

@[spec] theorem lifetime_spec (c₀ : Cursor) :
    ⦃fun c => ⌜c = c₀⌝⦄ lifetime ⦃⇓? v c => ⌜Closes c₀ (Covers v) c⌝⦄ := by
  refine triple_iff.mpr fun v c h => ?_
  rw [lifetime] at h
  split at h
  · rename_i joint region ident place rest hrest
    cases h
    rw [Closes, Reads, hrest]
    refine ⟨rfl, fun hread => ⟨hread, fun hseen => ⟨fresh_of_word (seen_of_punct hseen), ?_⟩⟩⟩
    rw [covers_node rfl]
    simp
  · cases h

@[spec] theorem lifetime?_spec (c₀ : Cursor) :
    ⦃fun c => ⌜c = c₀⌝⦄ lifetime? ⦃⇓? v c => ⌜Passes c₀ (CoversAll v) c⌝⦄ := by
  mvcgen [lifetime?] <;> grind -ring -linarith

@[spec] theorem literal_spec (c₀ : Cursor) :
    ⦃fun c => ⌜c = c₀⌝⦄ literal ⦃⇓? v c => ⌜Closes c₀ (CoversAll v) c⌝⦄ := by
  refine triple_iff.mpr fun v c h => ?_
  rw [literal] at h
  split at h
  · rename_i hliteral
    rw [Closes, Reads]
    generalize hrest : c₀.rest = tokens at h hliteral
    rw [Lookahead.literal.eq_def] at hliteral
    split at hliteral
    case h_1 =>
      cases h
      exact ⟨rfl, fun hread => ⟨hread, fun hseen => ⟨fresh_of_literal hseen, by simp⟩⟩⟩
    case h_2 =>
      cases h
      exact ⟨rfl, fun hread => ⟨hread, fun hseen => ⟨fresh_of_word hseen, by simp⟩⟩⟩
    case h_3 =>
      cases h
      exact ⟨rfl, fun hread => ⟨hread, fun hseen =>
        ⟨fresh_of_literal (seen_of_punct hseen), by simp⟩⟩⟩
    case h_4 => cases hliteral
  · cases h

/-- A scan goes on behind any token, and is ready behind a string or a word. -/
@[spec] theorem anyTree_spec (c₀ : Cursor) :
    ⦃fun c => ⌜c = c₀⌝⦄ anyTree
      ⦃⇓? v c => ⌜Goes c₀ (Covers v) c ∧ (Lookahead.string c₀.rest = true → Reads c₀ True c) ∧
        ∀ word, Lookahead.keyword word c₀.rest = true → Reads c₀ True c⌝⦄ := by
  refine triple_iff.mpr fun v c h => ?_
  rw [anyTree] at h
  split at h
  · rename_i token rest hrest
    cases h
    rw [Goes, Reads, hrest]
    refine ⟨fun hread => ⟨hread, fun hseen => ⟨seen_of_cons hseen, covers_leaf.mpr trivial⟩⟩,
      fun hstring hread => ⟨hread, fun hseen => ⟨?_, trivial⟩⟩,
      fun word hword hread => ⟨hread, fun hseen => ⟨?_, trivial⟩⟩⟩
    · cases token with
      | literal text region => exact fresh_of_literal hseen
      | _ => cases hstring
    · obtain ⟨ident, region, rfl⟩ := word_of_keyword (by simpa [Lookahead.keyword] using hword)
      exact fresh_of_word hseen
  · cases h

@[spec] theorem anyGroup_spec (c₀ : Cursor) :
    ⦃fun c => ⌜c = c₀⌝⦄ anyGroup
      ⦃⇓? v c => ⌜Closes c₀ (Covers v ∧ FindsCall v) c⌝⦄ := by
  refine triple_iff.mpr fun v c h => ?_
  rw [anyGroup] at h
  split at h
  · rename_i delimiter opening closing content rest hrest
    cases h
    rw [Closes, Reads, hrest]
    refine ⟨rfl, fun hread => ⟨hread, fun hseen => ?_⟩⟩
    obtain ⟨-, hfresh, hfinds⟩ := fresh_of_group hseen
    refine ⟨hfresh, covers_leaf.mpr trivial, ?_⟩
    rw [FindsCall, FindsCalls, inArguments, inArguments, List.append_nil]
    exact hfinds
  · cases h

/-! ## Groups -/

omit [Scan] in
theorem read_up {scope : Option Delimiter} {cursor : Cursor}
    (h : unreadAt scope cursor = none) : cursor.unread = none ∧ cursor.rest = [] := by
  simpa [unreadAt] using h

/-- The content of a group is read up if nothing is left over. -/
theorem inside_spec {α : Type} (delimiter : Delimiter) (covered : α → Prop) (parser : Parser α)
    (hcontent : ∀ c₀, ⦃fun c => ⌜c = c₀⌝⦄ parser ⦃⇓? v c => ⌜Fills c₀ (covered v) c⌝⦄)
    (c₀ : Cursor) :
    ⦃fun c => ⌜c = c₀⌝⦄ inside delimiter parser ⦃⇓? v c => ⌜Closes c₀ (covered v.1) c⌝⦄ := by
  refine triple_iff.mpr fun v c h => ?_
  rw [inside] at h
  split at h
  · rename_i found opening closing content rest hrest
    split at h
    · split at h
      · rename_i value inner hinner
        cases h
        have hfills := triple_iff.mp (hcontent _) _ _ hinner
        rw [Closes, Reads, hrest]
        refine ⟨rfl, fun hread => ?_⟩
        obtain ⟨hunread, hrest⟩ := read_up hread
        obtain ⟨hfirst, hcovered⟩ := hfills hunread
        exact ⟨hfirst, fun hseen => ⟨(fresh_of_group hseen).2.1,
          hcovered (fresh_of_group hseen).1 hrest⟩⟩
      · cases h
    · cases h
  · cases h

@[spec] theorem groupOf_spec (delimiter : Delimiter) {parser : Parser (List Tree)}
    (hcontent : ∀ c₀, ⦃fun c => ⌜c = c₀⌝⦄ parser ⦃⇓? v c => ⌜Fills c₀ (CoversRow v) c⌝⦄)
    (c₀ : Cursor) :
    ⦃fun c => ⌜c = c₀⌝⦄ groupOf delimiter parser ⦃⇓? v c => ⌜Closes c₀ (Covers v) c⌝⦄ := by
  have hinside := inside_spec delimiter CoversRow parser hcontent
  mvcgen [groupOf, hinside]
  all_goals grind -ring -linarith

/-! ## Loops -/

omit [Scan] in
/-- What holds of no pieces, and of pieces behind one more, holds of all pieces in a row. -/
theorem many_induct (entry loop : Cursor → List Tree → Cursor → Prop)
    {test : List TokenTree → Bool} {parser : Parser (List Tree)} (hnil : ∀ c, loop c [] c)
    (hstep : ∀ c₁ c₂ c₃ first rest, test c₁.rest = true → entry c₁ first c₂ → loop c₂ rest c₃ →
      loop c₁ (first ++ rest) c₃)
    (hentry : ∀ c₀, ⦃fun c => ⌜c = c₀⌝⦄ parser ⦃⇓? v c => ⌜entry c₀ v c⌝⦄) (c₀ : Cursor) :
    ⦃fun c => ⌜c = c₀⌝⦄ many test parser ⦃⇓? v c => ⌜loop c₀ v c⌝⦄ := by
  have hwhilst : ∀ fuel c₀, ⦃fun c => ⌜c = c₀⌝⦄ whilst fuel test parser
      ⦃⇓? v c => ⌜loop c₀ v c⌝⦄ := by
    intro fuel
    induction fuel with
    | zero =>
      intro c₀
      mvcgen [whilst]
      all_goals grind -ring -linarith
    | succ fuel ih =>
      intro c₀
      mvcgen [whilst, hentry, ih]
      all_goals grind -ring -linarith
  mvcgen [many, hwhilst]
  all_goals grind -ring -linarith

/-- Pieces in a row are covered if each is in front of no mark of a label. -/
theorem many_spec {test : List TokenTree → Bool} {parser : Parser (List Tree)}
    (htest : ∀ tokens, test tokens = true → isLabel tokens = false)
    (hentry : ∀ c₀, ⦃fun c => ⌜c = c₀⌝⦄ parser ⦃⇓? v c => ⌜Settles c₀ (CoversAll v) c⌝⦄)
    (c₀ : Cursor) :
    ⦃fun c => ⌜c = c₀⌝⦄ many test parser
      ⦃⇓? v c => ⌜Runs c₀ (isLabel c.rest = false → CoversAll v) c ∧
        (c = c₀ ∨ isLabel c₀.rest = false)⌝⦄ := by
  exact many_induct (fun c₁ v c₂ => Settles c₁ (CoversAll v) c₂)
    (fun c₁ v c₂ => Runs c₁ (isLabel c₂.rest = false → CoversAll v) c₂ ∧
      (c₂ = c₁ ∨ isLabel c₁.rest = false))
    (by grind) (by grind) hentry c₀

/-- Pieces in a row are covered if each of them is. -/
theorem many_runs_spec {test : List TokenTree → Bool} {parser : Parser (List Tree)}
    (hentry : ∀ c₀, ⦃fun c => ⌜c = c₀⌝⦄ parser ⦃⇓? v c => ⌜Runs c₀ (CoversAll v) c⌝⦄)
    (c₀ : Cursor) :
    ⦃fun c => ⌜c = c₀⌝⦄ many test parser ⦃⇓? v c => ⌜Runs c₀ (CoversAll v) c⌝⦄ := by
  exact many_induct (fun c₁ v c₂ => Runs c₁ (CoversAll v) c₂)
    (fun c₁ v c₂ => Runs c₁ (CoversAll v) c₂) (by grind) (by grind) hentry c₀

/-- If there are no pieces then nothing is read. -/
theorem many_some_spec {test : List TokenTree → Bool} {parser : Parser (List Tree)}
    (hentry : ∀ c₀, ⦃fun c => ⌜c = c₀⌝⦄ parser
      ⦃⇓? v c => ⌜Runs c₀ (CoversAll v) c ∧ v ≠ []⌝⦄)
    (c₀ : Cursor) :
    ⦃fun c => ⌜c = c₀⌝⦄ many test parser
      ⦃⇓? v c => ⌜Runs c₀ (CoversAll v) c ∧ (v = [] → c = c₀)⌝⦄ := by
  exact many_induct (fun c₁ v c₂ => Runs c₁ (CoversAll v) c₂ ∧ v ≠ [])
    (fun c₁ v c₂ => Runs c₁ (CoversAll v) c₂ ∧ (v = [] → c₂ = c₁)) (by grind)
    (by grind -ring -linarith [List.append_eq_nil_iff]) hentry c₀

/-- A scan goes on behind pieces in a row if it does behind each. -/
theorem many_goes_spec {test : List TokenTree → Bool} {parser : Parser (List Tree)}
    (hentry : ∀ c₀, ⦃fun c => ⌜c = c₀⌝⦄ parser ⦃⇓? v c => ⌜Goes c₀ (CoversAll v) c⌝⦄)
    (c₀ : Cursor) :
    ⦃fun c => ⌜c = c₀⌝⦄ many test parser ⦃⇓? v c => ⌜Goes c₀ (CoversAll v) c⌝⦄ := by
  exact many_induct (fun c₁ v c₂ => Goes c₁ (CoversAll v) c₂)
    (fun c₁ v c₂ => Goes c₁ (CoversAll v) c₂) (by grind) (by grind) hentry c₀

/-- What holds of no pieces, of one, and of pieces behind one more and a separator holds of all
pieces between separators. -/
theorem separatedUntil_induct (entry loop : Cursor → List Tree → Cursor → Prop)
    {stop : List TokenTree → Bool} {separator : String} {parser : Parser (List Tree)}
    (hnil : ∀ c, loop c [] c) (hlast : ∀ c₁ c₂ last, entry c₁ last c₂ → loop c₁ last c₂)
    (hstep : ∀ c₁ c₂ c₃ c₄ first mark rest, entry c₁ first c₂ →
      ReadsOperator separator c₂ mark c₃ → loop c₃ rest c₄ →
      loop c₁ (first ++ mark ++ rest) c₄)
    (hentry : ∀ c₀, ⦃fun c => ⌜c = c₀⌝⦄ parser ⦃⇓? v c => ⌜entry c₀ v c⌝⦄) (c₀ : Cursor) :
    ⦃fun c => ⌜c = c₀⌝⦄ separatedUntil stop separator parser ⦃⇓? v c => ⌜loop c₀ v c⌝⦄ := by
  have hloop : ∀ fuel c₀, ⦃fun c => ⌜c = c₀⌝⦄ separatedLoop fuel stop separator parser
      ⦃⇓? v c => ⌜loop c₀ v c⌝⦄ := by
    intro fuel
    induction fuel with
    | zero =>
      intro c₀
      mvcgen [separatedLoop]
      all_goals grind -ring -linarith
    | succ fuel ih =>
      intro c₀
      mvcgen [separatedLoop, hentry, ih]
      all_goals grind -ring -linarith
  mvcgen [separatedUntil, hloop]
  all_goals grind -ring -linarith

/-- Pieces between separators are covered, if each is in front of no mark of a label. -/
theorem separatedUntil_spec {stop : List TokenTree → Bool} {separator : String}
    {parser : Parser (List Tree)} (hclears : clears separator.toList = true)
    (hopen : endsOpen separator.toList = true)
    (hentry : ∀ c₀, ⦃fun c => ⌜c = c₀⌝⦄ parser ⦃⇓? v c => ⌜Lists c₀ (CoversAll v) c⌝⦄)
    (c₀ : Cursor) :
    ⦃fun c => ⌜c = c₀⌝⦄ separatedUntil stop separator parser
      ⦃⇓? v c => ⌜Lists c₀ (CoversAll v) c⌝⦄ := by
  exact separatedUntil_induct (fun c₁ v c₂ => Lists c₁ (CoversAll v) c₂)
    (fun c₁ v c₂ => Lists c₁ (CoversAll v) c₂) (by grind) (by grind) (by grind) hentry c₀

/-- A scan goes on behind pieces between separators if it does behind each. -/
theorem separatedUntil_goes_spec {stop : List TokenTree → Bool} {separator : String}
    {parser : Parser (List Tree)}
    (hentry : ∀ c₀, ⦃fun c => ⌜c = c₀⌝⦄ parser ⦃⇓? v c => ⌜Goes c₀ (CoversAll v) c⌝⦄)
    (c₀ : Cursor) :
    ⦃fun c => ⌜c = c₀⌝⦄ separatedUntil stop separator parser
      ⦃⇓? v c => ⌜Goes c₀ (CoversAll v) c⌝⦄ := by
  exact separatedUntil_induct (fun c₁ v c₂ => Goes c₁ (CoversAll v) c₂)
    (fun c₁ v c₂ => Goes c₁ (CoversAll v) c₂) (by grind) (by grind) (by grind) hentry c₀

@[spec] theorem commaList_spec {parser : Parser (List Tree)}
    (hentry : ∀ c₀, ⦃fun c => ⌜c = c₀⌝⦄ parser ⦃⇓? v c => ⌜Lists c₀ (CoversAll v) c⌝⦄)
    (c₀ : Cursor) :
    ⦃fun c => ⌜c = c₀⌝⦄ commaList parser ⦃⇓? v c => ⌜Lists c₀ (CoversAll v) c⌝⦄ :=
  separatedUntil_spec (by decide) (by decide) hentry c₀

/-- Values between separators are covered if each of them is. -/
theorem separatedValues_spec {α : Type} (covered : α → Prop) (stop : List TokenTree → Bool)
    {parser : Parser α}
    (hentry : ∀ c₀, ⦃fun c => ⌜c = c₀⌝⦄ parser ⦃⇓? v c => ⌜Lists c₀ (covered v) c⌝⦄)
    (fuel : Nat) (c₀ : Cursor) :
    ⦃fun c => ⌜c = c₀⌝⦄ separatedValues fuel stop "," parser
      ⦃⇓? v c => ⌜Lists c₀ (∀ value ∈ v.1, covered value) c⌝⦄ := by
  induction fuel generalizing c₀ with
  | zero =>
    mvcgen [separatedValues]
    all_goals grind -ring -linarith
  | succ fuel ih =>
    mvcgen [separatedValues, hentry, ih]
    all_goals grind -ring -linarith [endsOpen, clears]

theorem listOf_spec {α : Type} (covered : α → Prop) {parser : Parser α}
    (hentry : ∀ c₀, ⦃fun c => ⌜c = c₀⌝⦄ parser ⦃⇓? v c => ⌜Lists c₀ (covered v) c⌝⦄)
    (c₀ : Cursor) :
    ⦃fun c => ⌜c = c₀⌝⦄ listOf parser
      ⦃⇓? v c => ⌜Lists c₀ (∀ value ∈ v.1, covered value) c⌝⦄ := by
  have hvalues := separatedValues_spec covered List.isEmpty hentry
  mvcgen [listOf, hvalues]
  all_goals grind -ring -linarith

@[spec] theorem sumUntil_spec {stop : List TokenTree → Bool} {parser : Parser (List Tree)}
    (hentry : ∀ c₀, ⦃fun c => ⌜c = c₀⌝⦄ parser ⦃⇓? v c => ⌜Goes c₀ (CoversAll v) c⌝⦄)
    (c₀ : Cursor) :
    ⦃fun c => ⌜c = c₀⌝⦄ sumUntil stop parser ⦃⇓? v c => ⌜Goes c₀ (CoversAll v) c⌝⦄ := by
  have hloop : ∀ fuel c₀, ⦃fun c => ⌜c = c₀⌝⦄ sumLoop fuel stop parser
      ⦃⇓? v c => ⌜Goes c₀ (CoversAll v) c⌝⦄ := by
    intro fuel
    induction fuel with
    | zero =>
      intro c₀
      mvcgen [sumLoop]
      all_goals grind -ring -linarith
    | succ fuel ih =>
      intro c₀
      mvcgen [sumLoop, hentry, ih]
      all_goals grind -ring -linarith
  mvcgen [sumUntil, hloop]
  all_goals grind -ring -linarith

/-! ## Looking further -/

omit [Scan] in
@[spec] theorem peeking_spec {α : Type} (parser : Parser α) (c₀ : Cursor) :
    ⦃fun c => ⌜c = c₀⌝⦄ peeking parser ⦃⇓? _ c => ⌜c = c₀⌝⦄ := by
  refine triple_iff.mpr fun v c h => ?_
  rw [peeking] at h
  split at h
  · cases h
    rfl
  · cases h

omit [Scan] in
@[spec] theorem succeeds_spec {α : Type} (parser : Parser α) (c₀ : Cursor) :
    ⦃fun c => ⌜c = c₀⌝⦄ succeeds parser ⦃⇓? _ c => ⌜c = c₀⌝⦄ := by
  refine triple_iff.mpr fun v c h => ?_
  rw [succeeds] at h
  split at h
  all_goals
    cases h
    rfl

@[spec] theorem tokensSince_spec (start : List TokenTree) (c₀ : Cursor) :
    ⦃fun c => ⌜c = c₀⌝⦄ tokensSince start ⦃⇓? v c => ⌜c = c₀ ∧ CoversAll v⌝⦄ := by
  refine triple_iff.mpr fun v c h => ?_
  cases h
  exact ⟨rfl, coversAll_opaqueTokens.mpr trivial⟩

end Parser

/-! ## Parts that refer to each other -/

/-- Whether an expression of this form ends in a group that no label's mark may follow. -/
@[grind] def ExpressionKind.closes : ExpressionKind → Bool
  | .block | .constBlock | .forLoop | .ifElse | .loop | .macroCall | .matchArms | .tryBlock
  | .unsafeBlock | .whileLoop => true
  | .array | .assign | .asyncBlock | .await | .binary _ | .breakJump | .call | .cast | .closure
  | .continueJump | .field | .index | .infer | .letCondition | .literal | .methodCall | .paren
  | .path | .range | .rawAddress | .reference | .repeatArray | .returnJump | .structLiteral
  | .tryOperator | .tuple | .unary | .verbatim | .yieldJump => false

namespace Tree

/-- Whether an expression ends in a group that no label's mark may follow. -/
def isClosed (tree : Tree) : Bool := tree.expressionKind?.any (·.closes)

@[grind norm] theorem isClosed_expression {kind : ExpressionKind} {parts : List Tree} :
    isClosed (.node (.expression kind) parts) = kind.closes := rfl

theorem isClosed_of_kind {tree : Tree} {kind : ExpressionKind} (h : tree.expressionKind? = some kind)
    (hcloses : kind.closes = true) : tree.isClosed = true := by
  rw [isClosed, h]
  exact hcloses

@[grind →] theorem isClosed_of_endsStatement {tree : Tree} (h : tree.endsStatement = true) :
    tree.isClosed = true := by
  rw [endsStatement] at h
  split at h
  · rename_i kind hkind
    refine isClosed_of_kind hkind ?_
    cases kind with
    | binary comparison => cases h
    | _ => first | rfl | cases h
  · cases h

end Tree

section Held

variable [Scan]

/-- An expression was read up to the place: it is covered unless a label's mark follows. -/
@[grind] def Holds (cursor : Cursor) (tree : Tree) : Prop :=
  Fresh cursor.rest ∧ tree.expressionKind?.isSome = true ∧
    (isLabel cursor.rest = false ∨ tree.isClosed = true → Covers tree)

/-- A pattern was read up to the place: it is covered, unless it ends in a word and a label's mark
follows. -/
@[grind] def Fits (cursor : Cursor) (tree : Tree) : Prop :=
  Fresh cursor.rest ∧ (isLabel cursor.rest = false ∨ tree.endsInWord = false → Covers tree)

/-- A statement was read up to the place: it is covered if another may follow or nothing does. -/
@[grind] def Ends (cursor : Cursor) (tree : Tree) : Prop :=
  Fresh cursor.rest ∧
    (cursor.rest = [] ∨ tree.wantsSemicolon = false → CoversStatement tree)

/-- The parsers for the constructs that rules refer to read covered code. -/
class Grammar.Sound (grammar : Grammar) : Prop where
  type (sums : Bool) (c₀ : Cursor) :
    ⦃fun c => ⌜c = c₀⌝⦄ grammar.tree (.type sums) ⦃⇓? v c => ⌜Reads c₀ (Covers v) c⌝⦄
  expression (records : Bool) (c₀ : Cursor) :
    ⦃fun c => ⌜c = c₀⌝⦄ grammar.tree (.expression records)
      ⦃⇓? v c => ⌜Leads c₀ (Ready c₀.rest) (Holds c v) c⌝⦄
  operators (records : Bool) (floor : Precedence) (left : Tree) (c₀ : Cursor) :
    ⦃fun c => ⌜c = c₀⌝⦄ grammar.tree (.operators records floor left)
      ⦃⇓? v c => ⌜Leads c₀ (Holds c₀ left) (Holds c v) c⌝⦄
  operand (records : Bool) (above : Precedence) (c₀ : Cursor) :
    ⦃fun c => ⌜c = c₀⌝⦄ grammar.tree (.operand records above)
      ⦃⇓? v c => ⌜Leads c₀ (Ready c₀.rest) (Holds c v) c⌝⦄
  widened (records : Bool) (above : Precedence) (right : Tree) (c₀ : Cursor) :
    ⦃fun c => ⌜c = c₀⌝⦄ grammar.tree (.widened records above right)
      ⦃⇓? v c => ⌜Leads c₀ (Holds c₀ right) (Holds c v) c⌝⦄
  unary (records : Bool) (c₀ : Cursor) :
    ⦃fun c => ⌜c = c₀⌝⦄ grammar.tree (.unary records)
      ⦃⇓? v c => ⌜Leads c₀ (Ready c₀.rest) (Holds c v) c⌝⦄
  trailers (subject : Tree) (c₀ : Cursor) :
    ⦃fun c => ⌜c = c₀⌝⦄ grammar.tree (.trailers subject)
      ⦃⇓? v c => ⌜Leads c₀ (Holds c₀ subject) (Holds c v) c⌝⦄
  early (c₀ : Cursor) :
    ⦃fun c => ⌜c = c₀⌝⦄ grammar.tree .early
      ⦃⇓? v c => ⌜Leads c₀ (Ready c₀.rest) (Holds c v) c⌝⦄
  pattern (c₀ : Cursor) :
    ⦃fun c => ⌜c = c₀⌝⦄ grammar.tree .pattern
      ⦃⇓? v c => ⌜Leads c₀ (Ready c₀.rest) (Fits c v) c⌝⦄
  alternatives (c₀ : Cursor) :
    ⦃fun c => ⌜c = c₀⌝⦄ grammar.tree .alternatives
      ⦃⇓? v c => ⌜Settles c₀ (Covers v) c⌝⦄
  statement (c₀ : Cursor) :
    ⦃fun c => ⌜c = c₀⌝⦄ grammar.tree .statement
      ⦃⇓? v c => ⌜Leads c₀ (Fresh c₀.rest) (Ends c v) c⌝⦄
  bound (captures constants : Bool) (c₀ : Cursor) :
    ⦃fun c => ⌜c = c₀⌝⦄ grammar.tree (.bound captures constants)
      ⦃⇓? v c => ⌜Reads c₀ (Covers v) c⌝⦄
  nestedFields (c₀ : Cursor) :
    ⦃fun c => ⌜c = c₀⌝⦄ grammar.tree .nestedFields ⦃⇓? _ c => ⌜Reads c₀ True c⌝⦄
  useTree (rooted : Bool) (c₀ : Cursor) :
    ⦃fun c => ⌜c = c₀⌝⦄ grammar.tree (.useTree rooted) ⦃⇓? v c => ⌜Reads c₀ (Covers v) c⌝⦄
  item (c₀ : Cursor) :
    ⦃fun c => ⌜c = c₀⌝⦄ grammar.item ⦃⇓? v c => ⌜Reads c₀ (CoversAll v.trees) c⌝⦄

end Held

namespace Grammar

variable [Scan] (grammar : Grammar) [Sound grammar]

attribute [spec] Sound.type Sound.expression Sound.operators Sound.operand Sound.widened Sound.unary
  Sound.trailers Sound.early Sound.pattern Sound.alternatives Sound.statement Sound.bound
  Sound.nestedFields Sound.useTree Sound.item

@[spec] theorem type_spec (c₀ : Cursor) :
    ⦃fun c => ⌜c = c₀⌝⦄ grammar.type ⦃⇓? v c => ⌜Reads c₀ (Covers v) c⌝⦄ :=
  Sound.type true c₀

@[spec] theorem expression_spec (c₀ : Cursor) :
    ⦃fun c => ⌜c = c₀⌝⦄ grammar.expression
      ⦃⇓? v c => ⌜Leads c₀ (Ready c₀.rest) (Holds c v) c⌝⦄ :=
  Sound.expression true c₀

end Grammar

end Counterpart
