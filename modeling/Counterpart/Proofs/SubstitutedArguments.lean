import Mathlib
import Counterpart.Proofs.ReplacedInPlace

/-!
# Arguments of macro calls beside parsed code

In the arguments of a macro call, what stands behind a `Self` decides what takes its place: the
host's type in angle brackets in front of a colon, the host's name in front of anything else. In
parsed code the construct around it decides. The two agree if `Self` is a value, begins a longer
path, names a record or stands in the arguments of another macro call. They never agree on a `Self`
that is a type, and never on a `Self` that parsed code keeps, such as that of a nested item.
-/

namespace Counterpart

namespace Substitution

open TokenTree

/-! ## What stands behind a word -/

/-- Tokens go on with a colon. -/
def colonAhead (tokens : List TokenTree) : Bool := tokens.head?.any (·.isPunct ':')

/-- What takes the place of a `Self` in front of tokens. -/
def inFrontOf (substitution : Substitution) (after : List TokenTree) : List TokenTree :=
  if colonAhead after then substitution.bracketedTokens
  else [.word substitution.hostName.value substitution.hostName.region]

variable {substitution : Substitution}

theorem inTokens_self (region : Option Region) (after : List TokenTree) :
    substitution.inTokens (.word (.plain selfWord) region :: after) =
      substitution.inFrontOf after ++ substitution.inTokens after := by
  rw [inTokens]
  rfl

theorem inFrontOf_of_colon {after : List TokenTree} (h : colonAhead after = true) :
    substitution.inFrontOf after = substitution.bracketedTokens := if_pos h

theorem inFrontOf_of_not_colon {after : List TokenTree} (h : colonAhead after = false) :
    substitution.inFrontOf after =
      [.word substitution.hostName.value substitution.hostName.region] := by
  rw [inFrontOf, h]
  rfl

theorem colonAhead_append {tokens : List TokenTree} (h : colonAhead tokens = true)
    (after : List TokenTree) : colonAhead (tokens ++ after) = true := by
  cases tokens with
  | nil => cases h
  | cons head rest => exact h

/-- A token without `Self` stays. -/
theorem inTokens_cons_of_lacks {token : TokenTree} (h : lacks selfWord token = true)
    (after : List TokenTree) :
    substitution.inTokens (token :: after) = token :: substitution.inTokens after := by
  cases token with
  | word ident region =>
    rw [inTokens, if_pos (show (!ident.isWord selfWord) = true from h), List.singleton_append]
  | group delimiter opening closing content => rw [inTokens, inTokens_of_lacksAll h]
  | punct | literal => rw [inTokens] <;> simp

/-- Tokens without `Self` stay in front of all others. -/
theorem inTokens_append_of_lacksAll {before : List TokenTree}
    (h : lacksAll selfWord before = true) (after : List TokenTree) :
    substitution.inTokens (before ++ after) = before ++ substitution.inTokens after := by
  induction before with
  | nil => rfl
  | cons token rest ih =>
    obtain ⟨htoken, hrest⟩ := Bool.and_eq_true_iff.mp h
    rw [List.cons_append, inTokens_cons_of_lacks htoken, ih hrest, List.cons_append]

/-- Tokens are replaced on their own in front of all others but a colon. -/
theorem inTokens_append {after : List TokenTree} (hafter : colonAhead after = false)
    (before : List TokenTree) :
    substitution.inTokens (before ++ after) =
      substitution.inTokens before ++ substitution.inTokens after := by
  induction before with
  | nil => rw [inTokens, List.nil_append, List.nil_append]
  | cons token rest ih =>
    by_cases htoken : lacks selfWord token = true
    · rw [List.cons_append, inTokens_cons_of_lacks htoken, inTokens_cons_of_lacks htoken, ih,
        List.cons_append]
    cases token with
    | word ident region =>
      rw [lacks, Bool.not_eq_true, Bool.not_eq_false', Ident.isWord_iff] at htoken
      subst htoken
      have hahead : colonAhead (rest ++ after) = colonAhead rest := by
        cases rest with
        | nil => exact hafter
        | cons head tail => rfl
      rw [List.cons_append, inTokens_self, inTokens_self, inFrontOf, inFrontOf, hahead, ih,
        List.append_assoc]
    | group delimiter opening closing content =>
      rw [List.cons_append, inTokens, inTokens, ih, List.cons_append]
    | _ => exact absurd rfl htoken

/-! ## Code on which both agree -/

/-- Each of several trees has a property in front of what stands behind it. -/
def EachInFront (property : Tree → List TokenTree → Prop) (trees : List Tree)
    (after : List TokenTree) : Prop :=
  ∀ before tree behind, trees = before ++ tree :: behind →
    property tree (Tree.tokensAll behind ++ after)

/-- In front of some tokens, code mentions `Self` only as a value that no colon follows, as the word
that a longer path without attributes begins with, as the path of a record, and in the arguments of
macro calls. -/
inductive Alike : Tree → List TokenTree → Prop
  | leaf {token} (htoken : lacks selfWord token = true) (after) : Alike (.leaf token) after
  | group {delimiter opening closing content} (hcontent : EachInFront Alike content []) (after) :
      Alike (.group delimiter opening closing content) after
  | item {parts} (hparts : lacksAll selfWord (Tree.tokensAll parts) = true) (after) :
      Alike (.node .item parts) after
  | call {parts} (hparts : ∀ part ∈ parts, lacksAll selfWord part.tokens = true ∨
      ∃ delimiter opening closing content,
        part = .leaf (.group delimiter opening closing content)) (after) :
      Alike (.node .macroCall parts) after
  | value {attributes} (hattributes : NoPath attributes) (region) {after}
      (hbeside : EachInFront Alike attributes (.word (.plain selfWord) region :: after))
      (hafter : colonAhead after = false) :
      Alike (.node (.expression .path) (attributes ++ [selfPath region [] []])) after
  | path {kind} (hkind : isPathKind kind = true) (region) {rest after}
      (hcolon : colonAhead (Tree.tokensAll rest) = true) (hrest : EachInFront Alike rest after) :
      Alike (.node kind [selfPath region [] rest]) after
  | record {kind} (hkind : kind = .expression .structLiteral ∨ kind = .pattern .record)
      {before} (region) {behind after}
      (hbefore : EachInFront Alike before
        (.word (.plain selfWord) region :: (Tree.tokensAll behind ++ after)))
      (hbehind : EachInFront Alike behind after)
      (hcolon : colonAhead (Tree.tokensAll behind ++ after) = false) :
      Alike (.node kind (before ++ selfPath region [] [] :: behind)) after
  | node {kind parts after} (hitem : kind ≠ .item) (hcall : kind ≠ .macroCall)
      (hparts : EachInFront Alike parts after) : Alike (.node kind parts) after

theorem eachInFront_nil (property : Tree → List TokenTree → Prop) (after : List TokenTree) :
    EachInFront property [] after :=
  fun before _ _ hsplit => absurd hsplit.symm (List.append_ne_nil_of_right_ne_nil before nofun)

theorem eachInFront_cons {property : Tree → List TokenTree → Prop} {tree : Tree} {rest : List Tree}
    {after : List TokenTree} (htree : property tree (Tree.tokensAll rest ++ after))
    (hrest : EachInFront property rest after) : EachInFront property (tree :: rest) after := by
  intro before other behind hsplit
  cases before with
  | nil =>
    cases hsplit
    exact htree
  | cons first before =>
    cases hsplit
    exact hrest before other behind rfl

mutual

/-- Code without `Self` is replaced by itself either way. -/
theorem alike_of_lacksAll : ∀ (tree : Tree) (after : List TokenTree),
    lacksAll selfWord tree.tokens = true → Alike tree after
  | .leaf token, after, h => by
    rw [Tree.tokens, lacksAll, Bool.and_eq_true] at h
    exact .leaf h.1 after
  | .group delimiter opening closing content, after, h => by
    rw [Tree.tokens, lacksAll, lacks, Bool.and_eq_true] at h
    exact .group (eachAlike_of_lacksAll content [] h.1) after
  | .node kind parts, after, h => by
    rw [Tree.tokens] at h
    by_cases hitem : kind = .item
    · subst hitem
      exact .item h after
    by_cases hcall : kind = .macroCall
    · subst hcall
      rw [lacksAll_tokensAll, List.all_eq_true] at h
      exact .call (fun part hpart => .inl (h part hpart)) after
    exact .node hitem hcall (eachAlike_of_lacksAll parts after h)

theorem eachAlike_of_lacksAll : ∀ (trees : List Tree) (after : List TokenTree),
    lacksAll selfWord (Tree.tokensAll trees) = true → EachInFront Alike trees after
  | [], after, _ => eachInFront_nil Alike after
  | tree :: rest, after, h => by
    rw [Tree.tokensAll_cons, lacksAll_append, Bool.and_eq_true] at h
    exact eachInFront_cons (alike_of_lacksAll tree _ h.1) (eachAlike_of_lacksAll rest after h.2)

end

/-- Each of several trees is replaced as its tokens are, so all of them are. -/
theorem inTokens_tokensAll {trees : List Tree} {after : List TokenTree}
    (h : EachInFront (fun tree after => substitution.inTokens (tree.tokens ++ after) =
      (substitution.inTree tree).tokens ++ substitution.inTokens after) trees after) :
    substitution.inTokens (Tree.tokensAll trees ++ after) =
      Tree.tokensAll (substitution.inTrees trees) ++ substitution.inTokens after := by
  induction trees with
  | nil => rfl
  | cons tree rest ih =>
    have hrest := ih fun before other behind hsplit =>
      h (tree :: before) other behind (by rw [hsplit, List.cons_append])
    rw [Tree.tokensAll_cons, List.append_assoc, h [] tree rest rfl, hrest, inTrees,
      Tree.tokensAll_cons, List.append_assoc]

theorem EachInFront.of_mem {property : Tree → List TokenTree → Prop} {trees : List Tree}
    {after : List TokenTree} (h : EachInFront property trees after) {tree : Tree}
    (htree : tree ∈ trees) : ∃ after, property tree after := by
  obtain ⟨before, behind, hsplit⟩ := List.append_of_mem htree
  exact ⟨_, h before tree behind hsplit⟩

/-- The parts of a construct without a rule of its own. -/
theorem Alike.parts {kind : Kind} {parts : List Tree} {after : List TokenTree}
    (h : Alike (.node kind parts) after) (hitem : kind ≠ .item) (hcall : kind ≠ .macroCall)
    (hpath : isPathKind kind = false)
    (hrecord : ¬ (kind = .expression .structLiteral ∨ kind = .pattern .record)) :
    EachInFront Alike parts after := by
  generalize htree : Tree.node kind parts = tree at h
  cases h with
  | node _ _ hparts =>
    cases htree
    exact hparts
  | item => cases htree; exact absurd rfl hitem
  | call => cases htree; exact absurd rfl hcall
  | value => cases htree; cases hpath
  | path hkind => cases htree; rw [hkind] at hpath; cases hpath
  | record hkind => cases htree; exact absurd hkind hrecord
  | _ => cases htree

/-- A path that begins with `Self` is part of a construct that has a rule for it. -/
theorem Alike.not_startsWithSelf {tree : Tree} {after : List TokenTree} (h : Alike tree after) :
    ¬ StartsWithSelf tree := by
  rintro ⟨region, arguments, rest, rfl⟩
  have hsegment := (h.parts nofun nofun rfl nofun).of_mem (List.mem_cons_self ..)
  obtain ⟨behind, hsegment⟩ := hsegment
  obtain ⟨own, hword⟩ := (hsegment.parts nofun nofun rfl nofun).of_mem (List.mem_cons_self ..)
  cases hword with
  | leaf htoken => cases htoken

theorem EachInFront.not_startsWithSelf {trees : List Tree} {after : List TokenTree}
    (h : EachInFront Alike trees after) : ∀ tree ∈ trees, ¬ StartsWithSelf tree := by
  intro tree htree
  obtain ⟨behind, halike⟩ := h.of_mem htree
  exact halike.not_startsWithSelf

/-- Paths that do not begin with `Self` are not the path of a record that is replaced. -/
theorem map_inRecordPath (htype : substitution.hostType.isKind .typePath = true)
    {trees : List Tree} (h : ∀ tree ∈ trees, ¬ StartsWithSelf tree) :
    (substitution.inTrees trees).map substitution.inRecordPath = substitution.inTrees trees := by
  rw [List.map_congr_left (g := id), List.map_id]
  rw [inTrees_eq_map, List.forall_mem_map]
  intro tree htree
  refine inRecordPath_of_not_isSelf fun hself => ?_
  obtain ⟨region, rfl⟩ := isSelf_of_inTree htype hself
  exact h _ htree ⟨region, [], [], rfl⟩

/-- The parts of a macro call are replaced as their tokens are. -/
theorem inTokens_inCall {parts : List Tree}
    (h : ∀ part ∈ parts, lacksAll selfWord part.tokens = true ∨
      ∃ delimiter opening closing content,
        part = .leaf (.group delimiter opening closing content)) (after : List TokenTree) :
    substitution.inTokens (Tree.tokensAll parts ++ after) =
      Tree.tokensAll (substitution.inCall parts) ++ substitution.inTokens after := by
  induction parts with
  | nil => rfl
  | cons part rest ih =>
    obtain ⟨hpart, hrest⟩ := List.forall_mem_cons.mp h
    rw [Tree.tokensAll_cons, List.append_assoc, inCall, List.map_cons, Tree.tokensAll_cons,
      List.append_assoc, ← inCall, ← ih hrest]
    obtain hpart | ⟨delimiter, opening, closing, content, rfl⟩ := hpart
    · rw [inTokens_append_of_lacksAll hpart]
      split
      · next delimiter opening closing content =>
        rw [Tree.tokens, lacksAll, lacks, Bool.and_eq_true] at hpart
        rw [inTokens_of_lacksAll hpart.1]
      · rfl
    · rw [Tree.tokens, Tree.tokens, List.singleton_append, List.singleton_append, inTokens]

theorem inTokens_alike (htype : substitution.hostType.isKind .typePath = true) {tree : Tree}
    {after : List TokenTree} (h : Alike tree after) :
    substitution.inTokens (tree.tokens ++ after) =
      (substitution.inTree tree).tokens ++ substitution.inTokens after := by
  induction h with
  | leaf htoken after =>
    rw [inTree, Tree.tokens, List.singleton_append, List.singleton_append,
      inTokens_cons_of_lacks htoken]
  | group hcontent after ih =>
    have hinner := inTokens_tokensAll ih
    rw [List.append_nil, inTokens, List.append_nil] at hinner
    rw [inTree, Tree.tokens, Tree.tokens, List.singleton_append, List.singleton_append, inTokens,
      hinner]
  | item hparts after => rw [inTree, Tree.tokens, inTokens_append_of_lacksAll hparts]
  | call hparts after => rw [inTree, Tree.tokens, Tree.tokens, inTokens_inCall hparts]
  | @value attributes hattributes region after hbeside hafter ih =>
    have htokens : (Tree.node (.expression .path) (attributes ++ [selfPath region [] []])).tokens =
        Tree.tokensAll attributes ++ [.word (.plain selfWord) region] := by
      simp [Tree.tokens, tokens_selfPath]
    rw [htokens, List.append_assoc, List.singleton_append, inTokens_tokensAll ih, inTokens_self,
      inFrontOf_of_not_colon hafter, (namesHost substitution).valueAlone _ hattributes]
    simp [Tree.tokens, Tree.pathOfName, Tree.name]
  | @path kind hkind region rest after hcolon hrest ih =>
    obtain ⟨head, others, rfl⟩ : ∃ head others, rest = head :: others :=
      List.exists_cons_of_ne_nil fun hnil => by
        rw [hnil] at hcolon
        cases hcolon
    have htree : substitution.inTree (.node kind [selfPath region [] (head :: others)]) =
        .node kind [substitution.qualified (substitution.inTrees (head :: others))] := by
      have hnone : NoPath [] := List.forall_mem_nil _
      rw [isPathKind, Bool.or_eq_true, beq_iff_eq, beq_iff_eq] at hkind
      rcases hkind with rfl | rfl
      · exact (namesHost substitution).typeRest [] hnone region [] head others
      · exact (namesHost substitution).valueRest [] hnone region [] head others
    have htokens : (Tree.node kind [selfPath region [] (head :: others)]).tokens =
        .word (.plain selfWord) region :: Tree.tokensAll (head :: others) := by
      rw [Tree.tokens, Tree.tokensAll_cons, tokens_selfPath, Tree.tokensAll_nil, List.append_nil]
    rw [htokens, List.cons_append, inTokens_self, inFrontOf_of_colon (colonAhead_append hcolon after),
      inTokens_tokensAll ih, htree, Tree.tokens, Tree.tokensAll_cons, tokens_qualified,
      Tree.tokensAll_nil, List.append_nil, List.append_assoc]
  | @record kind hkind before region behind after hbefore hbehind hcolon ihbefore ihbehind =>
    have htokens : (Tree.node kind (before ++ selfPath region [] [] :: behind)).tokens =
        Tree.tokensAll before ++ .word (.plain selfWord) region :: Tree.tokensAll behind := by
      simp [Tree.tokens, tokens_selfPath]
    rw [htokens, List.append_assoc, List.cons_append, inTokens_tokensAll ihbefore, inTokens_self,
      inFrontOf_of_not_colon hcolon, inTokens_tokensAll ihbehind,
      (namesHost substitution).record kind hkind, map_inRecordPath htype hbefore.not_startsWithSelf,
      map_inRecordPath htype hbehind.not_startsWithSelf]
    simp [Tree.tokens, Tree.pathOfName, Tree.name]
  | @node kind parts after hitem hcall hparts ih =>
    have hself := hparts.not_startsWithSelf
    have hnone : selfPath? parts = none := selfPath?_eq_none_iff.mpr hself
    have hall := inTokens_tokensAll ih
    rw [Tree.tokens]
    by_cases hrecord : kind = .expression .structLiteral ∨ kind = .pattern .record
    · have hrecords := map_inRecordPath htype hself
      rcases hrecord with rfl | rfl
      all_goals rw [inTree, hrecords, Tree.tokens, hall]
    have hsame : substitution.inTree (.node kind parts) = .node kind (substitution.inTrees parts) := by
      by_cases htype : kind = .typePath
      · subst htype
        simp only [inTree, hnone]
      by_cases hvalue : kind = .expression .path
      · subst hvalue
        simp only [inTree, hnone]
      rw [not_or] at hrecord
      rw [inTree]
      · exact hitem
      · exact hcall
      · exact htype
      · exact hvalue
      · exact hrecord.1
      · exact hrecord.2
    rw [hsame, Tree.tokens, hall]

/-! ## Code on which they do not agree -/

/-- The type of a host has more tokens than its name. -/
theorem length_hostType (host : StructItem) : 3 ≤ (ofHost host).hostType.tokens.length := by
  obtain ⟨arguments, -, htype⟩ := host.generics.exists_appliedType host.ident
  change 3 ≤ (host.generics.appliedType host.ident).tokens.length
  rw [htype]
  simp [Tree.tokens, Tree.name, tokens_operator, operatorTokens]

/-- A type that is `Self` is not replaced as its tokens are, whatever stands behind it. -/
theorem inTokens_selfType_ne (host : StructItem) (region : Option Region)
    (after : List TokenTree) :
    (ofHost host).inTokens ((Tree.node .typePath [selfPath region [] []]).tokens ++ after) ≠
      ((ofHost host).inTree (.node .typePath [selfPath region [] []])).tokens
        ++ (ofHost host).inTokens after := by
  have hnone : NoPath [] := nofun
  have htree : (ofHost host).inTree (.node .typePath [selfPath region [] []]) =
      (ofHost host).hostType := (namesHost (ofHost host)).typeAlone [] hnone region []
  have htokens : (Tree.node .typePath [selfPath region [] []]).tokens =
      [.word (.plain selfWord) region] := by
    simp [Tree.tokens, tokens_selfPath]
  rw [htree, htokens, List.singleton_append, inTokens_self]
  intro hsame
  have hlength := congrArg List.length (List.append_cancel_right hsame)
  have hhost := length_hostType host
  rw [inFrontOf] at hlength
  split at hlength
  · simp only [bracketedTokens, operatorTokens, List.length_append, List.length_singleton] at hlength
    omega
  · rw [List.length_singleton] at hlength
    omega

/-- No `Self` stays in arguments, so they differ from code in which one does. -/
theorem inTokens_ne_of_kept (h : substitution.IsOutside) {tree : Tree}
    (hkept : lacksAll selfWord (substitution.inTree tree).tokens = false) :
    substitution.inTokens tree.tokens ≠ (substitution.inTree tree).tokens := by
  intro hsame
  rw [← hsame, lacksAll_inTokens h] at hkept
  cases hkept

/-! ## Calls -/

/-- A macro call: its path and its exclamation mark, and its arguments in a group. -/
def callOf (callee : List Tree) (delimiter : Delimiter) (opening closing : Option Region)
    (arguments : List TokenTree) : Tree :=
  .node .macroCall (callee ++ [.leaf (.group delimiter opening closing arguments)])

/-- No group stands in front of the arguments. -/
def NoGroup (callee : List Tree) : Prop :=
  ∀ part ∈ callee, ∀ delimiter opening closing content,
    part ≠ .leaf (.group delimiter opening closing content)

theorem inTree_callOf {callee : List Tree} (hcallee : NoGroup callee) (delimiter : Delimiter)
    (opening closing : Option Region) (arguments : List TokenTree) :
    substitution.inTree (callOf callee delimiter opening closing arguments) =
      callOf callee delimiter opening closing (substitution.inTokens arguments) := by
  have hsame : substitution.inCall callee = callee := by
    rw [inCall, List.map_congr_left (g := id), List.map_id]
    intro part hpart
    split
    · exact absurd rfl (hcallee _ hpart _ _ _ _)
    · rfl
  rw [callOf, inTree, inCall, List.map_append, ← inCall, hsame]
  rfl

/-- How the arguments of a macro call leave a host, beside the same code outside of a macro call.

In arguments, every `Self` is replaced: by the host's type in angle brackets in front of a colon, by
the host's name in front of anything else. Parsed code is treated like that if its `Self` is a value,
begins a longer path, names a record or stands in the arguments of a nested macro call. A `Self` that
is a type never is, since it becomes the host's type in parsed code, nor is code that keeps a `Self`,
as nested items do. -/
theorem arguments_beside_code (host : StructItem) :
    (∀ before region after,
      (ofHost host).inTokens (before ++ .word (.plain selfWord) region :: after) =
        (ofHost host).inTokens before ++ (ofHost host).inFrontOf after
          ++ (ofHost host).inTokens after) ∧
    (∀ tree, Alike tree [] → ∀ callee, NoGroup callee → ∀ delimiter opening closing,
      (ofHost host).inTree (callOf callee delimiter opening closing tree.tokens) =
        callOf callee delimiter opening closing ((ofHost host).inTree tree).tokens) ∧
    (∀ region after,
      (ofHost host).inTokens ((Tree.node .typePath [selfPath region [] []]).tokens ++ after) ≠
        ((ofHost host).inTree (.node .typePath [selfPath region [] []])).tokens
          ++ (ofHost host).inTokens after) ∧
    (IsOutside (ofHost host) → ∀ tree,
      lacksAll selfWord ((ofHost host).inTree tree).tokens = false →
        (ofHost host).inTokens tree.tokens ≠ ((ofHost host).inTree tree).tokens) := by
  refine ⟨fun before region after => ?_, fun tree halike callee hcallee delimiter opening closing => ?_,
    inTokens_selfType_ne host, fun houtside tree => inTokens_ne_of_kept houtside⟩
  · have hword : colonAhead (.word (.plain selfWord) region :: after) = false := rfl
    rw [inTokens_append hword, inTokens_self, List.append_assoc]
  · have hsame : (ofHost host).inTokens (tree.tokens ++ []) =
        ((ofHost host).inTree tree).tokens ++ (ofHost host).inTokens [] := inTokens_alike rfl halike
    rw [List.append_nil, inTokens, List.append_nil] at hsame
    rw [inTree_callOf hcallee, hsame]

/-- The path and the exclamation mark of a call of `m`. -/
def sampleCallee : List Tree := Tree.pathOfName ⟨.plain "m", none⟩ :: Tree.operator "!"

/-- The item `type A = Self;`. -/
def nestedItem : Tree :=
  .node .item (Tree.opaqueTokens (Template.word "type" ++ Template.word "A" ++ Template.mark "="
    ++ Template.word "Self" ++ Template.mark ";"))

theorem noGroup_sampleCallee : NoGroup sampleCallee := by
  rintro part hpart delimiter opening closing content rfl
  rcases List.mem_cons.mp hpart with hpath | hmark
  · cases hpath
  · cases List.mem_singleton.mp hmark

theorem alike_plainPath : Alike plainPath [] :=
  .path rfl none rfl (eachAlike_of_lacksAll sampleRest [] rfl)

theorem isOutside_sampleHost : IsOutside (ofHost (sampleHost "a")) := by
  have hread : (Grammar.forTokens (sampleCode "a")).structRule [] (.ofTokens (sampleCode "a")) =
      .ok (sampleHost "a", ⟨[], none, none⟩) := rfl
  obtain ⟨hname, hnamed⟩ := Grammar.isNamed_of_structRule hread
  exact isOutside_ofHost hname hnamed (by decide)

/-- The call `m!(Self::x)` leaves its host as the code `Self::x` does. The arguments of a call with a
nested item do not leave it as the item does. -/
theorem sample_beside_code :
    (ofHost (sampleHost "a")).inTree (callOf sampleCallee .parenthesis none none plainPath.tokens) =
      callOf sampleCallee .parenthesis none none
        ((ofHost (sampleHost "a")).inTree plainPath).tokens ∧
    (ofHost (sampleHost "a")).inTokens nestedItem.tokens ≠
      ((ofHost (sampleHost "a")).inTree nestedItem).tokens := by
  obtain ⟨-, hagree, -, hkept⟩ := arguments_beside_code (sampleHost "a")
  exact ⟨hagree plainPath alike_plainPath sampleCallee noGroup_sampleCallee .parenthesis none none,
    hkept isOutside_sampleHost nestedItem rfl⟩

/-- The tokens of `<Self as Default>::default()`. -/
def defaultCode : List TokenTree :=
  Template.mark "<" ++ Template.word "Self" ++ Template.word "as" ++ Template.word "Default"
    ++ Template.mark ">" ++ Template.mark "::" ++ Template.word "default" ++ [groupToken .parenthesis []]

/-- The type in `m!(<Self as Default>::default())` becomes the bare name of a host with a parameter,
and not the host's type as it does outside of the call. -/
theorem type_loses_parameters :
    ∃ tree, Grammar.read Grammar.expression defaultCode = .ok tree ∧
      TokenTree.renderAll ((ofHost (sampleHost "a")).inTree tree).tokens =
        "< H < 'a , > as Default > :: default ()" ∧
      TokenTree.renderAll ((ofHost (sampleHost "a")).inTree
          (callOf sampleCallee .parenthesis none none tree.tokens)).tokens =
        "m ! (< H as Default > :: default ())" := by
  refine ⟨_, rfl, ?_, ?_⟩
  · cbv
  · cbv

end Substitution

end Counterpart
