import Counterpart.Proofs.ModuleExpansion

/-!
# Modules without a session

What becomes of an item inside of a module does not depend on what was registered before, so it can
be said without a session, and with the parts of emitted code kept apart. The expansion writes these
unfoldings down.
-/

namespace Counterpart

/-- What an item of a module becomes, before emitted code is written down. -/
inductive Unfolded where
  /-- The item stays. -/
  | kept (item : Item)
  /-- The item is a host, and code is emitted for it. -/
  | host (emission : Emission)
  /-- The item is a module, with what its items become. -/
  | inlineModule (attributes : List Attribute) (head : List Tree)
      (opening closing : Option Region) (content : List Unfolded)

namespace Unfolded

mutual

/-- The item that the expansion leaves. -/
def item : Unfolded → Item
  | .kept item => item
  | .host emission => .verbatim emission.tokens
  | .inlineModule attributes head opening closing content =>
    .inlineModule attributes head opening closing (itemAll content)

/-- The items that the expansion leaves. -/
def itemAll : List Unfolded → List Item
  | [] => []
  | unfolded :: rest => item unfolded :: itemAll rest

end

/-- The items of a module are written down one by one. -/
theorem itemAll_eq_map (content : List Unfolded) : itemAll content = content.map item := by
  induction content with
  | nil => rfl
  | cons unfolded rest ih => rw [itemAll, ih, List.map_cons]

end Unfolded

variable {α β : Type}

/-- Things that follow each other are generated if both are. -/
theorem Generated.bind_eq_ok_iff {value : Generated α} {next : α → Generated β} {answer : β} :
    (value >>= next) = .ok answer ↔ ∃ found, value = .ok found ∧ next found = .ok answer := by
  cases value <;> simp [bind, Except.bind]

/-- A check that passes is not rejected. -/
theorem Checked.mapError_eq_ok_iff {value : Checked α} {answer : α} :
    value.mapError Failure.rejected = .ok answer ↔ value = .ok answer := by
  cases value <;> simp [Except.mapError]

namespace Host

/-- Things may be changed before or after they are gathered. -/
theorem gather_map (change : α → β) (parts : List (Generated α)) :
    gather (parts.map (change <$> ·)) = List.map change <$> gather parts := by
  induction parts with
  | nil => rfl
  | cons first rest ih =>
    rcases first with (found | _) | value
    · rw [List.map_cons, Except.map_error, gather, gather, ih]
      cases gather rest with
      | ok values => rfl
      | error reason => cases reason <;> rfl
    · rfl
    · rw [List.map_cons, Except.map_ok, gather, gather, ih]
      cases gather rest <;> rfl

end Host

namespace Expansion

/-! ## Results of parts -/

/-- What becomes of a part in a session of its own. -/
def Walk.result (walk : Walk α) : Generated α := (walk.outcome .empty).1

@[simp] theorem Walk.result_pure (value : α) : Walk.result (pure value) = pure value := rfl

@[simp] theorem result_ofChecked (value : Checked α) :
    (ofChecked value).result = value.mapError .rejected := rfl

/-- What becomes of parts that follow each other is decided part by part, if the later one does not
depend on what was registered before. -/
theorem Walk.result_bind (walk : Walk α) {next : α → Walk β}
    (hnext : ∀ value, (next value).IsSteady) :
    (walk >>= next).result = walk.result >>= fun value => (next value).result := by
  rw [Walk.result, Walk.result, Walk.outcome_bind]
  rcases walk.outcome .empty with ⟨reason | value, later⟩
  · rfl
  · exact hnext value later .empty

/-! ## Unfolding -/

/-- What is emitted for a marked item in a session of its own. -/
def emissionAlone (configuration : Configuration) (arguments : MarkerArguments) (item : Item) :
    Generated Emission :=
  (emissionOf configuration arguments item).result

/-- What an item with its first marker set apart becomes. -/
def unfoldMarked (configuration : Configuration) (marker : Attribute) (item : Item) :
    Generated Unfolded := do
  let arguments ← (MarkerArguments.ofMarker marker).mapError .rejected
  let emission ← emissionAlone configuration arguments item
  pure (.host emission)

mutual

/-- What an item inside of a marked module becomes. -/
def unfold (configuration : Configuration) : Item → Generated Unfolded
  | .outlineModule attributes head =>
    .ok (.kept (.outlineModule (Attribute.withoutMarker attributes) head))
  | .inlineModule attributes head opening closing content => do
    let marker := (Attribute.takeMarker? attributes).map (·.1)
    let inner ← (innerConfiguration configuration marker).mapError .rejected
    let content ← Host.gather (unfoldAll inner content)
    pure (.inlineModule (Attribute.withoutMarker attributes) head opening closing content)
  | item =>
    match Attribute.takeMarker? item.attributes with
    | none => .ok (.kept item)
    | some (marker, rest) => unfoldMarked configuration marker (item.withAttributes rest)

/-- What the items of a module become, one by one. -/
def unfoldAll (configuration : Configuration) : List Item → List (Generated Unfolded)
  | [] => []
  | item :: rest => unfold configuration item :: unfoldAll configuration rest

end

/-- An item that is no module is unfolded for its marker alone. -/
theorem unfold_of_isModule_eq_false {item : Item} (h : item.isModule = false)
    (configuration : Configuration) :
    unfold configuration item =
      match Attribute.takeMarker? item.attributes with
      | none => .ok (.kept item)
      | some (marker, rest) => unfoldMarked configuration marker (item.withAttributes rest) := by
  cases item <;> first | rfl | cases h

/-! ## The expansion of an item -/

theorem result_ofMarked (configuration : Configuration) (marker : Attribute) (item : Item) :
    (ofMarked configuration marker item).result =
      Unfolded.item <$> unfoldMarked configuration marker item := by
  rw [ofMarked, Walk.result_bind _ fun arguments =>
    (isSteady_emissionOf configuration arguments item).bind fun _ => Walk.isSteady_pure _]
  rw [unfoldMarked, map_bind, result_ofChecked]
  refine bind_congr fun arguments => ?_
  rw [Walk.result_bind _ fun _ => Walk.isSteady_pure _, map_bind]
  rfl

theorem result_ofInner_leaf (configuration : Configuration) {item : Item}
    (h : item.isModule = false) :
    (ofInner configuration item).result = Unfolded.item <$> unfold configuration item := by
  rw [ofInner_of_isModule_eq_false h, unfold_of_isModule_eq_false h]
  cases Attribute.takeMarker? item.attributes with
  | none => rfl
  | some taken => exact result_ofMarked configuration taken.1 _

/-- The items of a module are gathered whatever was registered before the module. -/
theorem isSteady_gather_ofInners (configuration : Configuration) (items : List Item) :
    Walk.IsSteady (ExceptT.mk (Host.gather <$> ofInners configuration items)) :=
  fun session other => congrArg Host.gather (isSteady_ofInners configuration items session other)

/-- If the expansions of items are their unfoldings, written down, so are they together. -/
theorem result_gather_of_run {configuration : Configuration} {items : List Item}
    (h : ((ofInners configuration items).run .empty).1 =
      (unfoldAll configuration items).map (Unfolded.item <$> ·)) :
    Walk.result (ExceptT.mk (Host.gather <$> ofInners configuration items)) =
      Unfolded.itemAll <$> Host.gather (unfoldAll configuration items) := by
  have hitems : Unfolded.itemAll = List.map Unfolded.item := funext Unfolded.itemAll_eq_map
  rw [hitems, ← Host.gather_map, ← h]
  rfl

mutual

/-- The expansion of an item inside of a module is its unfolding, written down. -/
theorem result_ofInner (configuration : Configuration) :
    ∀ item, (ofInner configuration item).result = Unfolded.item <$> unfold configuration item
  | .outlineModule attributes head => by
    unfold ofInner Expansion.unfold
    rfl
  | .inlineModule attributes head opening closing content => by
    unfold ofInner Expansion.unfold
    rw [Walk.result_bind _ fun inner =>
      (isSteady_gather_ofInners inner content).bind fun _ => Walk.isSteady_pure _]
    rw [map_bind, result_ofChecked]
    refine bind_congr fun inner => ?_
    have hcontent := result_gather_of_run (run_ofInners inner content)
    rw [Walk.result_bind _ fun _ => Walk.isSteady_pure _, map_bind, hcontent, bind_map_left]
    rfl
  | .record item => result_ofInner_leaf configuration rfl
  | .enumeration item => result_ofInner_leaf configuration rfl
  | .unionType item => result_ofInner_leaf configuration rfl
  | .other item => result_ofInner_leaf configuration rfl
  | .verbatim tokens => result_ofInner_leaf configuration rfl

/-- So are the expansions of the items of a module. -/
theorem run_ofInners (configuration : Configuration) :
    ∀ items, ((ofInners configuration items).run .empty).1 =
      (unfoldAll configuration items).map (Unfolded.item <$> ·)
  | [] => rfl
  | item :: rest => by
    rw [run_ofInners_cons, unfoldAll, List.map_cons, ← result_ofInner configuration item,
      ← run_ofInners configuration rest, isSteady_ofInners configuration rest _ .empty]
    rfl

end

/-! ## The expansion of an annotated item -/

/-- An item that is no module is expanded to what is emitted for it. -/
theorem ofItem_of_isModule_eq_false {item : Item} (h : item.isModule = false)
    (base : Configuration) (arguments : MarkerArguments) :
    ofItem base arguments item = Emission.tokens <$> emissionAlone base arguments item := by
  have hwalk : ofOuter base arguments item =
      emissionOf base arguments item >>= fun emission => pure emission.tokens := by
    cases item <;> first | rfl | cases h
  rw [ofItem, hwalk]
  exact Walk.result_bind _ fun _ => Walk.isSteady_pure _

/-- A module whose content is elsewhere is rejected, at the latest for that. -/
theorem ofItem_outlineModule (base : Configuration) (arguments : MarkerArguments)
    (attributes : List Attribute) (head : List Tree) :
    ofItem base arguments (.outlineModule attributes head) =
      (do
        let _ ← (moduleConfiguration base arguments).mapError .rejected
        (Checked.fail .outlineModule (Item.outlineModule attributes head).region).mapError
          .rejected) :=
  Walk.result_bind _ fun _ => isSteady_ofChecked _

/-- A module is expanded to itself around what its items become. -/
theorem ofItem_inlineModule (base : Configuration) (arguments : MarkerArguments)
    (attributes : List Attribute) (head : List Tree) (opening closing : Option Region)
    (content : List Item) :
    ofItem base arguments (.inlineModule attributes head opening closing content) =
      (do
        let inner ← (moduleConfiguration base arguments).mapError .rejected
        let content ← Host.gather (unfoldAll inner content)
        pure (Unfolded.inlineModule attributes head opening closing content).item.tokens) := by
  change (ofChecked _ >>= fun inner => _).result = _
  rw [Walk.result_bind _ fun inner =>
    (isSteady_gather_ofInners inner content).bind fun _ => Walk.isSteady_pure _, result_ofChecked]
  refine bind_congr fun inner => ?_
  have hcontent := result_gather_of_run (run_ofInners inner content)
  rw [Walk.result_bind _ fun _ => Walk.isSteady_pure _, hcontent, bind_map_left]
  rfl

end Expansion

end Counterpart
