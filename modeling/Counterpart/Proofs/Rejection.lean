import Counterpart.Proofs.InternalErrors
import Counterpart.Proofs.Stripping
import Counterpart.Proofs.Unfolding

/-!
# All or nothing

An expansion in which anything fails leaves the annotated item, stripped, and everything that users
are told about the marked items that fail, in the order of the source. What is said about a marked
item is what is said when it is expanded alone. Modules whose content is elsewhere are an exception:
inside of another module their marker is taken off unread.
-/

namespace Counterpart

variable {α β : Type}

/-! ## Failures -/

namespace Failure

/-- What users are told, if something fails. -/
def told : Option Failure → List Diagnostic
  | some (.rejected found) => found
  | _ => []

/-- The failure of two things together: a broken template, or the diagnostics of both. -/
def both : Option Failure → Option Failure → Option Failure
  | none, later => later
  | some .brokenTemplate, _ => some .brokenTemplate
  | some (.rejected found), none => some (.rejected found)
  | some (.rejected found), some (.rejected later) => some (.rejected (found ++ later))
  | some (.rejected _), some .brokenTemplate => some .brokenTemplate

variable {first second : Option Failure}

theorem both_assoc (third : Option Failure) :
    both (both first second) third = both first (both second third) := by
  rcases first with _ | (_ | _) <;> rcases second with _ | (_ | _) <;>
    rcases third with _ | (_ | _) <;> simp [both]

theorem both_eq_none_iff : both first second = none ↔ first = none ∧ second = none := by
  rcases first with _ | (_ | _) <;> rcases second with _ | (_ | _) <;> simp [both]

theorem both_eq_broken_iff :
    both first second = some .brokenTemplate ↔
      first = some .brokenTemplate ∨ second = some .brokenTemplate := by
  rcases first with _ | (_ | _) <;> rcases second with _ | (_ | _) <;> simp [both]

/-- Nothing that users are told gets lost, unless a template is broken. -/
theorem told_both (h : both first second ≠ some .brokenTemplate) :
    told (both first second) = told first ++ told second := by
  rcases first with _ | (_ | _) <;> rcases second with _ | (_ | _) <;> simp_all [both, told]

end Failure

namespace Generated

/-- Why nothing is generated, if it is so. -/
def failure? : Generated α → Option Failure
  | .ok _ => none
  | .error reason => some reason

/-- What users are told. -/
def diagnostics (value : Generated α) : List Diagnostic := Failure.told (failure? value)

@[simp] theorem failure?_map (change : α → β) (value : Generated α) :
    failure? (change <$> value) = failure? value := by
  cases value <;> rfl

theorem failure?_eq_some_iff {value : Generated α} {reason : Failure} :
    failure? value = some reason ↔ value = .error reason := by
  cases value <;> simp [failure?]

end Generated

namespace Host

open Generated

/-- Things that are gathered fail together. -/
theorem failure?_gather_cons (first : Generated α) (rest : List (Generated α)) :
    failure? (gather (first :: rest)) = Failure.both (failure? first) (failure? (gather rest)) := by
  rcases first with (found | _) | value
  · rw [gather]
    cases gather rest with
    | ok values => rfl
    | error reason => cases reason <;> rfl
  · rfl
  · rw [gather, failure?_map]
    rfl

/-- Things that are gathered one group after the other fail together. -/
theorem failure?_gather_append (first second : List (Generated α)) :
    failure? (gather (first ++ second)) =
      Failure.both (failure? (gather first)) (failure? (gather second)) := by
  induction first with
  | nil => rfl
  | cons part rest ih =>
    rw [List.cons_append, failure?_gather_cons, ih, failure?_gather_cons, Failure.both_assoc]

/-- A single thing fails as it is gathered. -/
theorem failure?_gather_singleton (part : Generated α) :
    failure? (gather [part]) = failure? part := by
  rw [failure?_gather_cons]
  rcases part with (_ | _) | _ <;> rfl

variable {parts : List (Generated α)}

/-- Together, things are there if all of them are. -/
theorem failure?_gather_eq_none_iff :
    failure? (gather parts) = none ↔ ∀ part ∈ parts, failure? part = none := by
  induction parts with
  | nil => simp [gather, failure?]
  | cons part rest ih =>
    rw [failure?_gather_cons, Failure.both_eq_none_iff, ih, List.forall_mem_cons]

/-- Together, things are ended by a template if one of them is. -/
theorem failure?_gather_eq_broken_iff :
    failure? (gather parts) = some .brokenTemplate ↔ .error .brokenTemplate ∈ parts := by
  induction parts with
  | nil => simp [gather, failure?]
  | cons part rest ih =>
    rw [failure?_gather_cons, Failure.both_eq_broken_iff, ih, failure?_eq_some_iff, List.mem_cons,
      eq_comm]

/-- Together, things have the diagnostics of each, in order, unless a template ends them. -/
theorem diagnostics_gather (h : .error .brokenTemplate ∉ parts) :
    diagnostics (gather parts) = parts.flatMap diagnostics := by
  induction parts with
  | nil => rfl
  | cons part rest ih =>
    have hboth := failure?_gather_eq_broken_iff.not.mpr h
    have hrest := ih fun hmem => h (List.mem_cons_of_mem _ hmem)
    rw [failure?_gather_cons] at hboth
    rw [List.flatMap_cons, ← hrest, diagnostics, failure?_gather_cons, Failure.told_both hboth]
    rfl

end Host

/-! ## Marked items -/

/-- The arguments that choose by themselves what holds for a marker inside of a marked module. -/
def MarkerArguments.spelledOut (configuration : Configuration) (arguments : MarkerArguments) :
    MarkerArguments :=
  let chosen := configuration.overriding arguments
  ⟨arguments.rename, some chosen.javaSetters, some chosen.style⟩

/-- A marked item, with its first marker set apart, and what holds around it. -/
structure MarkedItem where
  configuration : Configuration
  marker : Attribute
  item : Item

namespace MarkedItem

/-- The expansion of the item alone, by a marker that chooses what holds around the item. -/
def alone (base : Configuration) (marked : MarkedItem) : Generated (List TokenTree) := do
  let arguments ← (MarkerArguments.ofMarker marked.marker).mapError .rejected
  Expansion.ofItem base (arguments.spelledOut marked.configuration) marked.item

end MarkedItem

/-- Other attributes do not make an item a module. -/
theorem Item.isModule_withAttributes (attributes : List Attribute) (item : Item) :
    (item.withAttributes attributes).isModule = item.isModule := by
  cases item <;> rfl

namespace Expansion

open Generated

mutual

/-- The marked items that an item inside of a marked module answers for, in the order of the source.
A module whose marker is rejected answers for itself, and not for the items inside of it. A module
whose content is elsewhere answers for nothing, marked or not. -/
def answering (configuration : Configuration) : Item → List MarkedItem
  | .outlineModule _ _ => []
  | .inlineModule attributes head opening closing content =>
    let taken := Attribute.takeMarker? attributes
    match innerConfiguration configuration (taken.map (·.1)) with
    | .ok inner => answeringAll inner content
    | .error _ => taken.toList.map fun (marker, rest) =>
      ⟨configuration, marker, .inlineModule rest head opening closing content⟩
  | item => (Attribute.takeMarker? item.attributes).toList.map fun (marker, rest) =>
      ⟨configuration, marker, item.withAttributes rest⟩

/-- The marked items that the items of a module answer for. -/
def answeringAll (configuration : Configuration) : List Item → List MarkedItem
  | [] => []
  | item :: rest => answering configuration item ++ answeringAll configuration rest

end

/-- An item that is no module answers for itself, if it is marked. -/
theorem answering_of_isModule_eq_false {item : Item} (h : item.isModule = false)
    (configuration : Configuration) :
    answering configuration item = (Attribute.takeMarker? item.attributes).toList.map fun taken =>
      ⟨configuration, taken.1, item.withAttributes taken.2⟩ := by
  cases item <;> first | rfl | cases h

/-- A marker that renames is rejected on a module, whatever holds around it. -/
theorem moduleConfiguration_spelledOut (base : Configuration) {configuration : Configuration}
    {arguments : MarkerArguments} {found : List Diagnostic}
    (h : moduleConfiguration configuration arguments = .error found) :
    moduleConfiguration base (arguments.spelledOut configuration) = .error found := by
  unfold moduleConfiguration at *
  split at h
  · next name hname =>
    have hspelled : (arguments.spelledOut configuration).rename = some name := hname
    rw [hspelled]
    exact h
  · cases h

/-- A marked item that is no module fails as it does alone. -/
theorem failure?_unfold_leaf (base configuration : Configuration) {item : Item}
    (hmodule : item.isModule = false) :
    failure? (unfold configuration item) =
      failure? (Host.gather ((answering configuration item).map (·.alone base))) := by
  rw [unfold_of_isModule_eq_false hmodule, answering_of_isModule_eq_false hmodule]
  cases Attribute.takeMarker? item.attributes with
  | none => rfl
  | some taken =>
    obtain ⟨marker, rest⟩ := taken
    have hrest := (item.isModule_withAttributes rest).trans hmodule
    change failure? (unfoldMarked configuration marker _) =
      failure? (Host.gather
        [MarkedItem.alone base ⟨configuration, marker, item.withAttributes rest⟩])
    rw [Host.failure?_gather_singleton, unfoldMarked, MarkedItem.alone]
    cases (MarkerArguments.ofMarker marker).mapError Failure.rejected with
    | error reason => rfl
    | ok arguments =>
      change failure? (emissionAlone configuration arguments _ >>= _) = failure? (ofItem _ _ _)
      rw [ofItem_of_isModule_eq_false hrest, failure?_map]
      -- The marker alone chooses what the one inside of the module was given.
      change _ = failure? (emissionAlone configuration arguments _)
      cases emissionAlone configuration arguments (item.withAttributes rest) <;> rfl

/-- A module whose marker is rejected fails as it does alone. -/
theorem failure?_alone_inlineModule (base : Configuration) {configuration : Configuration}
    {marker : Attribute} {found : List Diagnostic}
    (h : innerConfiguration configuration (some marker) = .error found)
    (attributes : List Attribute) (head : List Tree) (opening closing : Option Region)
    (content : List Item) :
    failure? (MarkedItem.alone base
      ⟨configuration, marker, .inlineModule attributes head opening closing content⟩) =
        some (.rejected found) := by
  change MarkerArguments.ofMarker marker >>= _ = _ at h
  rw [MarkedItem.alone]
  cases harguments : MarkerArguments.ofMarker marker with
  | error own =>
    rw [harguments] at h
    cases h
    rfl
  | ok arguments =>
    rw [harguments] at h
    have hrejected := moduleConfiguration_spelledOut base h
    change failure? (ofItem _ _ _) = _
    rw [ofItem_inlineModule, hrejected]
    rfl

mutual

/-- An item inside of a marked module fails like the marked items that it answers for. -/
theorem failure?_unfold (base configuration : Configuration) :
    ∀ item, failure? (unfold configuration item) =
      failure? (Host.gather ((answering configuration item).map (·.alone base)))
  | .outlineModule attributes head => rfl
  | .inlineModule attributes head opening closing content => by
    unfold Expansion.unfold answering
    cases hinner : innerConfiguration configuration
        ((Attribute.takeMarker? attributes).map (·.1)) with
    | ok inner =>
      have hcontent := failure?_unfoldAll base inner content
      simp only [hinner]
      rw [← hcontent]
      change failure? (Host.gather (unfoldAll inner content) >>= _) = _
      cases Host.gather (unfoldAll inner content) <;> rfl
    | error found =>
      cases htaken : Attribute.takeMarker? attributes with
      | none =>
        rw [htaken] at hinner
        cases hinner
      | some taken =>
        rw [htaken] at hinner
        have halone :=
          failure?_alone_inlineModule base hinner taken.2 head opening closing content
        rw [← Host.failure?_gather_singleton] at halone
        simp only [hinner]
        exact halone.symm
  | .record item => failure?_unfold_leaf base configuration rfl
  | .enumeration item => failure?_unfold_leaf base configuration rfl
  | .unionType item => failure?_unfold_leaf base configuration rfl
  | .other item => failure?_unfold_leaf base configuration rfl
  | .verbatim tokens => failure?_unfold_leaf base configuration rfl

/-- The items of a module fail like the marked items that they answer for. -/
theorem failure?_unfoldAll (base configuration : Configuration) :
    ∀ items, failure? (Host.gather (unfoldAll configuration items)) =
      failure? (Host.gather ((answeringAll configuration items).map (·.alone base)))
  | [] => rfl
  | item :: rest => by
    rw [unfoldAll, answeringAll, List.map_append, Host.failure?_gather_append,
      Host.failure?_gather_cons, failure?_unfold base configuration item,
      failure?_unfoldAll base configuration rest]

end

/-! ## The annotated item -/

/-- What an annotated item answers with: its argument list, if that is rejected, or itself, or the
marked items inside of it, each expanded alone. -/
def answers (base : Configuration) (arguments : List TokenTree) (item : Item) :
    List (Generated (List TokenTree)) :=
  match MarkerArguments.ofTokens arguments with
  | .error found => [.error (.rejected found)]
  | .ok arguments =>
    match item with
    | .inlineModule _ _ _ _ content =>
      match moduleConfiguration base arguments with
      | .error found => [.error (.rejected found)]
      | .ok inner => (answeringAll inner content).map (·.alone base)
    | item => [ofItem base arguments item]

/-- The expansion of an annotated item fails like its answers. -/
theorem failure?_generated (base : Configuration) (arguments : List TokenTree) (item : Item) :
    failure? (generated base arguments item) =
      failure? (Host.gather (answers base arguments item)) := by
  unfold generated answers
  cases MarkerArguments.ofTokens arguments with
  | error found => rfl
  | ok arguments =>
    change failure? (ofItem base arguments item) = _
    cases item with
    | inlineModule attributes head opening closing content =>
      rw [ofItem_inlineModule]
      cases hinner : moduleConfiguration base arguments with
      | error found =>
        simp only [hinner]
        rfl
      | ok inner =>
        simp only [hinner]
        rw [← failure?_unfoldAll base inner content]
        change failure? (Host.gather (unfoldAll inner content) >>= _) = _
        cases Host.gather (unfoldAll inner content) <;> rfl
    | _ => exact (Host.failure?_gather_singleton _).symm

end Expansion

/-! ## Every rejection has a reason -/

/-- Nothing is rejected without a diagnostic. -/
def Generated.IsExplained (value : Generated α) : Prop := value ≠ .error (.rejected [])

namespace Generated

theorem IsExplained.bind {value : Generated α} (h : IsExplained value) {next : α → Generated β}
    (hnext : ∀ answer, value = .ok answer → IsExplained (next answer)) :
    IsExplained (value >>= next) := by
  cases value with
  | ok answer => exact hnext answer rfl
  | error reason =>
    intro hnone
    cases hnone
    exact h rfl

theorem IsExplained.map {value : Generated α} (h : IsExplained value) (change : α → β) :
    IsExplained (change <$> value) := by
  cases value with
  | ok answer => exact nofun
  | error reason =>
    intro hnone
    cases hnone
    exact h rfl

end Generated

/-- What a grounded check finds is a reason. -/
theorem Checked.Grounded.isExplained_rejected {found : List Diagnostic}
    (h : Checked.Grounded (.error found : Checked α)) :
    Generated.IsExplained (.error (.rejected found) : Generated β) := by
  intro hnone
  cases hnone
  exact h.1 rfl

/-- A check that is grounded says what is wrong. -/
theorem Checked.Grounded.isExplained {value : Checked α} (h : Checked.Grounded value) :
    Generated.IsExplained (value.mapError .rejected) := by
  cases value with
  | ok answer => exact nofun
  | error found => exact h.isExplained_rejected

/-- An emission is turned down for a collision. -/
theorem Host.Numbered.isExplained_emission {host : Host} (h : host.Numbered) :
    Generated.IsExplained host.emission := by
  intro hnone
  have hcheck : host.checkCollisions host.declared = .error (.rejected []) := by
    rw [← h.emission_eq_checkCollisions (by rw [hnone]; nofun), hnone]
    rfl
  unfold checkCollisions refuse at hcheck
  split at hcheck
  · cases hcheck
  · next hfound =>
    have hempty := Failure.rejected.inj (Except.error.inj hcheck)
    exact hfound (by rw [hempty]; rfl)

namespace Expansion

open Generated

/-- What is emitted for a marked item alone is what is emitted for its host. -/
theorem emissionAlone_eq (configuration : Configuration) (arguments : MarkerArguments)
    (item : Item) :
    emissionAlone configuration arguments item =
      item.asHost.mapError .rejected >>= fun struct =>
        (Host.ofStruct struct (configuration.overriding arguments) arguments.rename).mapError
          .rejected >>= Host.emission := by
  have hregistered (struct : StructItem) :
      (registered struct (configuration.overriding arguments) arguments.rename >>=
        emitted).IsSteady := fun session other =>
    (outcome_registered_emitted struct _ _ session).trans
      (outcome_registered_emitted struct _ _ other).symm
  rw [emissionAlone, emissionOf, Walk.result_bind _ hregistered, result_ofChecked]
  exact bind_congr fun struct => outcome_registered_emitted struct _ _ .empty

theorem isExplained_emissionAlone (configuration : Configuration) (arguments : MarkerArguments)
    (item : Item) : Generated.IsExplained (emissionAlone configuration arguments item) := by
  rw [emissionAlone_eq]
  refine item.grounded_asHost.isExplained.bind fun struct _ => ?_
  refine (Host.grounded_ofStruct struct _ _).isExplained.bind fun host hhost => ?_
  exact (Host.numbered_of_ofStruct (Checked.mapError_eq_ok_iff.mp hhost)).isExplained_emission

theorem isExplained_ofItem_leaf {item : Item} (h : item.isModule = false) (base : Configuration)
    (arguments : MarkerArguments) : Generated.IsExplained (ofItem base arguments item) := by
  rw [ofItem_of_isModule_eq_false h]
  exact (isExplained_emissionAlone _ _ _).map _

theorem isExplained_answering_leaf {base configuration : Configuration} {item : Item}
    (h : item.isModule = false) :
    ∀ marked ∈ answering configuration item, Generated.IsExplained (marked.alone base) := by
  rw [answering_of_isModule_eq_false h]
  intro marked hmarked
  obtain ⟨taken, -, rfl⟩ := List.mem_map.mp hmarked
  refine (MarkerArguments.grounded_ofMarker _).isExplained.bind fun arguments _ => ?_
  exact isExplained_ofItem_leaf ((item.isModule_withAttributes taken.2).trans h) base _

mutual

/-- A marked item that is rejected alone says what is wrong. -/
theorem isExplained_answering (base configuration : Configuration) :
    ∀ item, ∀ marked ∈ answering configuration item, Generated.IsExplained (marked.alone base)
  | .outlineModule attributes head => fun _ hmarked => absurd hmarked List.not_mem_nil
  | .inlineModule attributes head opening closing content => by
    unfold answering
    cases hinner : innerConfiguration configuration
        ((Attribute.takeMarker? attributes).map (·.1)) with
    | ok inner =>
      simp only [hinner]
      exact isExplained_answeringAll base inner content
    | error found =>
      have hgrounded := grounded_innerConfiguration configuration
        ((Attribute.takeMarker? attributes).map (·.1))
      rw [hinner] at hgrounded
      simp only [hinner]
      intro marked hmarked
      obtain ⟨taken, htaken, rfl⟩ := List.mem_map.mp hmarked
      rw [Option.mem_toList.mp htaken] at hinner
      have halone :=
        failure?_alone_inlineModule base hinner taken.2 head opening closing content
      rw [failure?_eq_some_iff.mp halone]
      exact hgrounded.isExplained_rejected
  | .record item => isExplained_answering_leaf rfl
  | .enumeration item => isExplained_answering_leaf rfl
  | .unionType item => isExplained_answering_leaf rfl
  | .other item => isExplained_answering_leaf rfl
  | .verbatim tokens => isExplained_answering_leaf rfl

/-- So do all that the items of a module answer for. -/
theorem isExplained_answeringAll (base configuration : Configuration) :
    ∀ items, ∀ marked ∈ answeringAll configuration items,
      Generated.IsExplained (marked.alone base)
  | [] => fun _ hmarked => absurd hmarked List.not_mem_nil
  | item :: rest => fun marked hmarked =>
    (List.mem_append.mp hmarked).elim (isExplained_answering base configuration item marked)
      (isExplained_answeringAll base configuration rest marked)

end

theorem isExplained_ofItem_outlineModule (base : Configuration) (arguments : MarkerArguments)
    (attributes : List Attribute) (head : List Tree) :
    Generated.IsExplained (ofItem base arguments (.outlineModule attributes head)) := by
  rw [ofItem_outlineModule]
  refine (grounded_moduleConfiguration base arguments).isExplained.bind fun inner _ => ?_
  exact (Checked.grounded_fail (by nofun) _).isExplained

/-- An answer that is a rejection says what is wrong. -/
theorem isExplained_answers (base : Configuration) (arguments : List TokenTree) (item : Item) :
    ∀ answer ∈ answers base arguments item, Generated.IsExplained answer := by
  have harguments := MarkerArguments.grounded_ofTokens arguments
  unfold answers
  split
  · next found hfound =>
    rw [hfound] at harguments
    exact List.forall_mem_singleton.mpr harguments.isExplained_rejected
  · next arguments _ =>
    split
    · next content =>
      have hmodule := grounded_moduleConfiguration base arguments
      split
      · next found hfound =>
        rw [hfound] at hmodule
        exact List.forall_mem_singleton.mpr hmodule.isExplained_rejected
      · next inner _ =>
        intro answer hanswer
        obtain ⟨marked, hmarked, rfl⟩ := List.mem_map.mp hanswer
        exact isExplained_answeringAll base inner _ marked hmarked
    · next hinline =>
      refine List.forall_mem_singleton.mpr ?_
      cases item with
      | inlineModule attributes head opening closing content => exact absurd rfl (hinline _ _ _ _ _)
      | outlineModule attributes head => exact isExplained_ofItem_outlineModule base arguments _ _
      | _ => exact isExplained_ofItem_leaf rfl base arguments

/-- A template ends the expansion of an annotated item exactly if it ends that of an answer. -/
theorem ofTokens?_eq_none_iff {base : Configuration} {arguments : List TokenTree} {item : Item} :
    ofTokens? base arguments item = none ↔
      .error .brokenTemplate ∈ answers base arguments item := by
  rw [← Host.failure?_gather_eq_broken_iff, ← failure?_generated, failure?_eq_some_iff, ofTokens?]
  rcases generated base arguments item with (found | _) | tokens <;> simp

/-- If an answer is a rejection, the item is left with what is wrong with each of them. -/
theorem ofTokens?_of_rejected {base : Configuration} {arguments : List TokenTree} {item : Item}
    (hfits : .error .brokenTemplate ∉ answers base arguments item) {own : List Diagnostic}
    (hrejected : .error (.rejected own) ∈ answers base arguments item) :
    ofTokens? base arguments item =
      some (rejection item ((answers base arguments item).flatMap diagnostics)) := by
  have hdiagnostics := Host.diagnostics_gather hfits
  have hfailure := failure?_generated base arguments item
  have hsome : failure? (Host.gather (answers base arguments item)) ≠ none := fun hnone =>
    Option.some_ne_none _ (Host.failure?_gather_eq_none_iff.mp hnone _ hrejected)
  have hunbroken := Host.failure?_gather_eq_broken_iff.not.mpr hfits
  rw [diagnostics, ← hfailure] at hdiagnostics
  rw [← hfailure] at hsome hunbroken
  rw [ofTokens?, ← hdiagnostics]
  cases hgenerated : generated base arguments item with
  | ok tokens =>
    rw [hgenerated] at hsome
    exact absurd rfl hsome
  | error reason =>
    cases reason with
    | rejected found => rfl
    | brokenTemplate =>
      rw [hgenerated] at hunbroken
      exact absurd rfl hunbroken

/-- If no answer fails, the item is expanded. -/
theorem exists_generated_of_answers {base : Configuration} {arguments : List TokenTree}
    {item : Item}
    (h : ∀ answer ∈ answers base arguments item, ∃ tokens, answer = .ok tokens) :
    ∃ tokens, generated base arguments item = .ok tokens := by
  have hnone : failure? (generated base arguments item) = none := by
    rw [failure?_generated, Host.failure?_gather_eq_none_iff]
    intro answer hanswer
    obtain ⟨tokens, rfl⟩ := h answer hanswer
    rfl
  cases hgenerated : generated base arguments item with
  | ok tokens => exact ⟨tokens, rfl⟩
  | error reason =>
    rw [hgenerated] at hnone
    cases hnone

end Expansion

open Expansion in
/-- Code that is annotated has no outcome at all exactly if it is no item. An item is expanded if all
of its answers are: its argument list and itself, or the marked items inside of it, each expanded
alone. If a template ends none of them and some are rejected, the item is left, stripped, and
everything that is wrong with each of them is reported, in the order of the source; there is something
to report. Stripping takes the helpers off all fields and the markers off all inner items, changes
nothing else, and does no more when it is repeated. -/
theorem rejected_item_is_left (base : Configuration) (arguments code : List TokenTree) :
    (∀ fault, ofCodeFrom base arguments code = .error fault ↔
      Grammar.read (fun grammar => grammar.item) code = .error fault) ∧
    ∀ item, Grammar.read (fun grammar => grammar.item) code = .ok item →
      (ofCodeFrom base arguments code = .ok none ↔
        .error .brokenTemplate ∈ answers base arguments item) ∧
      ((∀ answer ∈ answers base arguments item, ∃ tokens, answer = .ok tokens) →
        ∃ tokens, generated base arguments item = .ok tokens ∧
          ofCodeFrom base arguments code = .ok (some tokens)) ∧
      (.error .brokenTemplate ∉ answers base arguments item →
        ∀ own, .error (.rejected own) ∈ answers base arguments item → own ≠ [] ∧
          ofCodeFrom base arguments code = .ok (some (item.stripped.tokens ++
            ((answers base arguments item).flatMap Generated.diagnostics).flatMap report))) ∧
      item.stripped.bare = item.bare ∧
      item.stripped.attributes = item.attributes ∧
      item.stripped.fieldSites = item.fieldSites.map Attribute.withoutHelpers ∧
      item.stripped.innerSites = item.innerSites.map Attribute.withoutMarkers ∧
      item.stripped.stripped = item.stripped := by
  cases hread : Grammar.read (fun grammar => grammar.item) code with
  | error fault =>
    have hcode : ofCodeFrom base arguments code = .error fault := by
      rw [ofCodeFrom, hread]
      rfl
    refine ⟨fun other => ?_, nofun⟩
    rw [hcode, Except.error.injEq, Except.error.injEq]
  | ok item =>
    have hcode : ofCodeFrom base arguments code = .ok (ofTokens? base arguments item) := by
      rw [ofCodeFrom, hread]
      rfl
    refine ⟨fun fault => by simp [hcode], fun other hother => ?_⟩
    obtain rfl : item = other := Except.ok.inj hother
    obtain ⟨hbare, hattributes, hfields, hinner⟩ := item.stripped_sites
    rw [hcode]
    refine ⟨?_, fun hall => ?_, fun hfits own hrejected => ⟨?_, ?_⟩, hbare, hattributes, hfields,
      hinner, item.stripped_stripped⟩
    · rw [Except.ok.injEq, ofTokens?_eq_none_iff]
    · obtain ⟨tokens, htokens⟩ := exists_generated_of_answers hall
      refine ⟨tokens, htokens, ?_⟩
      rw [ofTokens?, htokens]
    · -- A rejection without a diagnostic would leave an item that nothing is said about.
      rintro rfl
      exact isExplained_answers base arguments item _ hrejected rfl
    · rw [ofTokens?_of_rejected hfits hrejected]
      rfl

namespace Sample

/-- Why an item that is annotated without arguments is rejected, if the code is one. -/
def causes (source : String) : Option (List Cause) := do
  let code ← TokenTree.ofSource? source
  let item ← (Grammar.read (fun grammar => grammar.item) code).toOption
  pure ((Generated.diagnostics (Expansion.generated .standard [] item)).map (·.cause))

end Sample

/-- Two marked items, each of which is rejected alone. In one module, that the content of the second
is elsewhere is not reported. -/
theorem outline_marker_unreported :
    Sample.causes "enum E \x7b A \x7d" = some [.noPrimaryConstructor] ∧
    Sample.causes "mod x;" = some [.outlineModule] ∧
    Sample.causes "mod m \x7b #[piecemeal] enum E \x7b A \x7d #[piecemeal] mod x; \x7d" =
      some [.noPrimaryConstructor] := by
  decide +kernel

end Counterpart
