import Counterpart.Expansion
import Mathlib.Data.List.Forall2

/-!
# A module is expanded item by item

One session goes through a whole module, so a struct is registered behind all that were registered
before it. What becomes of an item is nevertheless a matter of the item and of the markers around
it: the relation below describes it with a session of its own for every struct, and an expansion
that succeeds has exactly the result that the relation allows.
-/

namespace Counterpart

/-- What holds inside of marked modules with the given arguments, from the outermost inwards, in a
session that was started with the given configuration. -/
def Configuration.inside (base : Configuration) (enclosing : List MarkerArguments) :
    Configuration :=
  enclosing.foldl Configuration.overriding base

/-- What holds for a marker is what holds around it, wherever the marker leaves the choice open. -/
theorem Configuration.inside_append (base : Configuration) (enclosing : List MarkerArguments)
    (arguments : MarkerArguments) :
    base.inside (enclosing ++ [arguments]) = (base.inside enclosing).overriding arguments := by
  rw [inside, List.foldl_append]
  rfl

/-- What is emitted for a struct that is registered with a session of its own. -/
def EmitsAlone (struct : StructItem) (configuration : Configuration)
    (rename : Option (Located Ident)) (emission : Emission) : Prop :=
  ∃ id session, Session.empty.register struct configuration rename = .ok (id, session) ∧
    session.emit id = .ok emission

mutual

/-- What an item becomes inside of marked modules with the given arguments. -/
inductive ExpandsTo (base : Configuration) : List MarkerArguments → Item → Item → Prop
  /-- An item without a marker stays as it is. -/
  | unmarked {enclosing : List MarkerArguments} {item : Item} (hmodule : item.isModule = false)
      (hmarker : Attribute.takeMarker? item.attributes = none) : ExpandsTo base enclosing item item
  /-- A marked struct becomes what is emitted for it alone. -/
  | struct {enclosing : List MarkerArguments} {struct : StructItem} {marker : Attribute}
      {others : List Attribute} {arguments : MarkerArguments} {emission : Emission}
      (hmarker : Attribute.takeMarker? struct.attributes = some (marker, others))
      (harguments : MarkerArguments.ofMarker marker = .ok arguments)
      (hemission : EmitsAlone { struct with attributes := others }
        (base.inside (enclosing ++ [arguments])) arguments.rename emission) :
      ExpandsTo base enclosing (.record struct) (.verbatim emission.tokens)
  /-- A module whose content is elsewhere loses its first marker. -/
  | outline {enclosing : List MarkerArguments} {attributes : List Attribute} {head : List Tree} :
      ExpandsTo base enclosing (.outlineModule attributes head)
        (.outlineModule (Attribute.withoutMarker attributes) head)
  /-- The items of a module without a marker are expanded as those around it. -/
  | inner {enclosing : List MarkerArguments} {attributes : List Attribute} {head : List Tree}
      {opening closing : Option Region} {content expanded : List Item}
      (hmarker : Attribute.takeMarker? attributes = none)
      (hcontent : ExpandAllTo base enclosing content expanded) :
      ExpandsTo base enclosing (.inlineModule attributes head opening closing content)
        (.inlineModule attributes head opening closing expanded)
  /-- The arguments of a marked module hold for its items. The module loses its first marker. -/
  | markedInner {enclosing : List MarkerArguments} {attributes others : List Attribute}
      {marker : Attribute} {arguments : MarkerArguments} {head : List Tree}
      {opening closing : Option Region} {content expanded : List Item}
      (hmarker : Attribute.takeMarker? attributes = some (marker, others))
      (harguments : MarkerArguments.ofMarker marker = .ok arguments)
      (hrename : arguments.rename = none)
      (hcontent : ExpandAllTo base (enclosing ++ [arguments]) content expanded) :
      ExpandsTo base enclosing (.inlineModule attributes head opening closing content)
        (.inlineModule others head opening closing expanded)

/-- What the items of a module become, each on its own. -/
inductive ExpandAllTo (base : Configuration) : List MarkerArguments → List Item → List Item → Prop
  | nil {enclosing : List MarkerArguments} : ExpandAllTo base enclosing [] []
  | cons {enclosing : List MarkerArguments} {item expanded : Item} {rest later : List Item}
      (hitem : ExpandsTo base enclosing item expanded)
      (hrest : ExpandAllTo base enclosing rest later) :
      ExpandAllTo base enclosing (item :: rest) (expanded :: later)

end

/-- Every item becomes one item, in the same place. -/
theorem expandAllTo_iff_forall₂ {base : Configuration} {enclosing : List MarkerArguments}
    {items expanded : List Item} :
    ExpandAllTo base enclosing items expanded ↔
      List.Forall₂ (ExpandsTo base enclosing) items expanded := by
  refine ⟨fun h => ?_, fun h => ?_⟩
  · induction items generalizing expanded with
    | nil =>
      cases h
      exact .nil
    | cons item rest ih =>
      cases h with
      | cons hitem hrest => exact .cons hitem (ih hrest)
  · induction h with
    | nil => exact .nil
    | cons hitem _ ih => exact .cons hitem ih

namespace Expansion

variable {α β : Type} {session : Session}

/-! ## Outcomes of parts -/

/-- Parts that follow each other succeed if both do. -/
theorem Walk.bind_eq_ok_iff {walk : Walk α} {next : α → Walk β} {answer : β} :
    ((walk >>= next).outcome session).1 = .ok answer ↔
      ∃ value, (walk.outcome session).1 = .ok value ∧
        ((next value).outcome (walk.outcome session).2).1 = .ok answer := by
  rw [outcome_bind]
  rcases walk.outcome session with ⟨reason | value, later⟩ <;> simp

/-- A check succeeds as a part of an expansion as it does alone. -/
theorem ofChecked_eq_ok_iff {value : Checked α} {answer : α} :
    ((ofChecked value).outcome session).1 = .ok answer ↔ value = .ok answer := by
  have houtcome : ((ofChecked value).outcome session).1 = value.mapError .rejected := rfl
  rw [houtcome]
  cases value <;> simp [Except.mapError]

/-- A part whose outcome does not depend on what was registered before. -/
def Walk.IsSteady (walk : Walk α) : Prop :=
  ∀ session other : Session, (walk.outcome session).1 = (walk.outcome other).1

theorem Walk.isSteady_pure (value : α) : Walk.IsSteady (pure value) := fun _ _ => rfl

theorem isSteady_ofChecked (value : Checked α) : (ofChecked value).IsSteady := fun _ _ => rfl

/-- Steady parts that follow each other are steady together. -/
theorem Walk.IsSteady.bind {walk : Walk α} (h : walk.IsSteady) {next : α → Walk β}
    (hnext : ∀ value, (next value).IsSteady) : Walk.IsSteady (walk >>= next) := by
  intro session other
  have hsame := h session other
  rw [Walk.outcome_bind, Walk.outcome_bind]
  rcases hfirst : walk.outcome session with ⟨first, later⟩
  rcases hsecond : walk.outcome other with ⟨second, last⟩
  rw [hfirst, hsecond] at hsame
  obtain rfl : first = second := hsame
  cases first with
  | error reason => rfl
  | ok value => exact hnext value later last

/-- What is emitted for a struct behind any others is what is emitted for its host. -/
theorem outcome_registered_emitted (struct : StructItem) (configuration : Configuration)
    (rename : Option (Located Ident)) (session : Session) :
    ((registered struct configuration rename >>= emitted).outcome session).1 =
      ((Host.ofStruct struct configuration rename).mapError .rejected >>= Host.emission) := by
  rw [Walk.outcome_bind, registered, Walk.outcome_mk, Session.register]
  cases Host.ofStruct struct configuration rename with
  | error found => rfl
  | ok host =>
    -- The number that the host gets is that of the last place, where it is found again.
    change Session.emit ⟨session.hosts ++ [host]⟩ session.hosts.length = host.emission
    simp [Session.emit, Session.host?]

theorem isSteady_emissionOf (configuration : Configuration) (arguments : MarkerArguments)
    (item : Item) : (emissionOf configuration arguments item).IsSteady := by
  refine (isSteady_ofChecked item.asHost).bind fun struct session other => ?_
  exact (outcome_registered_emitted struct _ _ session).trans
    (outcome_registered_emitted struct _ _ other).symm

theorem isSteady_ofMarked (configuration : Configuration) (marker : Attribute) (item : Item) :
    (ofMarked configuration marker item).IsSteady :=
  (isSteady_ofChecked _).bind fun arguments =>
    (isSteady_emissionOf configuration arguments item).bind fun _ => Walk.isSteady_pure _

theorem isSteady_ofInner_leaf (configuration : Configuration) {item : Item}
    (h : item.isModule = false) : (ofInner configuration item).IsSteady := by
  rw [ofInner_of_isModule_eq_false h]
  split
  · exact Walk.isSteady_pure _
  · exact isSteady_ofMarked configuration _ _

/-- The items of a module are expanded one after the other. -/
theorem run_ofInners_cons (configuration : Configuration) (item : Item) (rest : List Item)
    (session : Session) :
    (ofInners configuration (item :: rest)).run session =
      (((ofInner configuration item).outcome session).1 ::
          ((ofInners configuration rest).run ((ofInner configuration item).outcome session).2).1,
        ((ofInners configuration rest).run ((ofInner configuration item).outcome session).2).2) := rfl

mutual

/-- What becomes of an item does not depend on what was registered before. -/
theorem isSteady_ofInner (configuration : Configuration) :
    ∀ item, (ofInner configuration item).IsSteady
  | .outlineModule attributes head => by
    unfold ofInner
    exact Walk.isSteady_pure _
  | .inlineModule attributes head opening closing content => by
    unfold ofInner
    refine (isSteady_ofChecked _).bind fun inner => ?_
    refine Walk.IsSteady.bind ?_ fun items => Walk.isSteady_pure _
    intro session other
    exact congrArg Host.gather (isSteady_ofInners inner content session other)
  | .record item => isSteady_ofInner_leaf configuration rfl
  | .enumeration item => isSteady_ofInner_leaf configuration rfl
  | .unionType item => isSteady_ofInner_leaf configuration rfl
  | .other item => isSteady_ofInner_leaf configuration rfl
  | .verbatim tokens => isSteady_ofInner_leaf configuration rfl

/-- Neither does what becomes of the items of a module. -/
theorem isSteady_ofInners (configuration : Configuration) :
    ∀ items (session other : Session),
      ((ofInners configuration items).run session).1 = ((ofInners configuration items).run other).1
  | [], _, _ => rfl
  | item :: rest, session, other => by
    -- The first item may leave two sessions that differ, so the rest has to be steady as well.
    have hitem := isSteady_ofInner configuration item session other
    have hrest := isSteady_ofInners configuration rest
      ((ofInner configuration item).outcome session).2
      ((ofInner configuration item).outcome other).2
    rw [run_ofInners_cons, run_ofInners_cons]
    simp only [hitem, hrest]

end

/-! ## Parts that succeed -/

/-- What holds inside of a marked module is what its marker makes of what holds around it. -/
theorem moduleConfiguration_eq_ok_iff {configuration inner : Configuration}
    {arguments : MarkerArguments} :
    moduleConfiguration configuration arguments = .ok inner ↔
      arguments.rename = none ∧ inner = configuration.overriding arguments := by
  unfold moduleConfiguration
  split <;> simp_all [Checked.fail, eq_comm]

/-- A struct that is registered with a session of its own gets what is emitted for its host. -/
theorem emitsAlone_iff {struct : StructItem} {configuration : Configuration}
    {rename : Option (Located Ident)} {emission : Emission} :
    EmitsAlone struct configuration rename emission ↔
      ∃ host, Host.ofStruct struct configuration rename = .ok host ∧
        host.emission = .ok emission := by
  refine ⟨?_, ?_⟩
  · rintro ⟨id, session, hregister, hemit⟩
    obtain ⟨host, hhost, rfl, rfl⟩ := Session.register_eq_ok hregister
    exact ⟨host, hhost, hemit⟩
  · rintro ⟨host, hhost, hemission⟩
    refine ⟨0, ⟨[host]⟩, ?_, hemission⟩
    rw [Session.register, hhost]
    rfl

/-- Only structs are hosts, and only if they have a primary constructor. -/
theorem asHost_eq_ok_iff {item : Item} {struct : StructItem} :
    item.asHost = .ok struct ↔ item = .record struct ∧ struct.checkConstructor = .ok () := by
  cases item with
  | record other =>
    cases hcheck : other.checkConstructor with
    | error found =>
      simp only [Item.asHost, hcheck, bind, Except.bind, reduceCtorEq, Item.record.injEq, false_iff]
      rintro ⟨rfl, hpassed⟩
      simp [hcheck] at hpassed
    | ok passed =>
      simp only [Item.asHost, hcheck, bind, Except.bind, pure, Except.pure, Except.ok.injEq,
        Item.record.injEq]
      refine ⟨?_, fun h => h.1⟩
      rintro rfl
      exact ⟨rfl, hcheck⟩
  | _ => simp [Item.asHost, Checked.fail]

/-- What holds inside of a module with a marker is what the marker makes of what holds around it. -/
theorem innerConfiguration_some_eq_ok_iff {configuration inner : Configuration}
    {marker : Attribute} :
    innerConfiguration configuration (some marker) = .ok inner ↔
      ∃ arguments, MarkerArguments.ofMarker marker = .ok arguments ∧ arguments.rename = none ∧
        inner = configuration.overriding arguments := by
  cases harguments : MarkerArguments.ofMarker marker with
  | error found => simp [innerConfiguration, harguments, bind, Except.bind]
  | ok arguments =>
    simp [innerConfiguration, harguments, bind, Except.bind, moduleConfiguration_eq_ok_iff]

/-- A marked item succeeds if it is a struct, with what is emitted for it alone. -/
theorem emissionOf_eq_ok_iff {configuration : Configuration} {arguments : MarkerArguments}
    {item : Item} {emission : Emission} :
    ((emissionOf configuration arguments item).outcome session).1 = .ok emission ↔
      ∃ struct, item = .record struct ∧
        EmitsAlone struct (configuration.overriding arguments) arguments.rename emission := by
  unfold emissionOf
  rw [Walk.bind_eq_ok_iff]
  simp only [ofChecked_eq_ok_iff,
    asHost_eq_ok_iff, outcome_registered_emitted, emitsAlone_iff]
  refine ⟨?_, ?_⟩
  · rintro ⟨struct, ⟨rfl, -⟩, hemission⟩
    cases hhost : Host.ofStruct struct (configuration.overriding arguments) arguments.rename with
    | error found =>
      rw [hhost] at hemission
      cases hemission
    | ok host =>
      rw [hhost] at hemission
      exact ⟨struct, rfl, host, hhost, hemission⟩
  · rintro ⟨struct, rfl, host, hhost, hemission⟩
    refine ⟨struct, ⟨rfl, Host.checkConstructor_of_ofStruct hhost⟩, ?_⟩
    rw [hhost]
    exact hemission

/-- A marked item becomes what its emission is written as. -/
theorem ofMarked_eq_ok_iff {configuration : Configuration} {marker : Attribute}
    {item expanded : Item} :
    ((ofMarked configuration marker item).outcome session).1 = .ok expanded ↔
      ∃ arguments struct emission, MarkerArguments.ofMarker marker = .ok arguments ∧
        item = .record struct ∧
        EmitsAlone struct (configuration.overriding arguments) arguments.rename emission ∧
        expanded = .verbatim emission.tokens := by
  unfold ofMarked
  simp only [Walk.bind_eq_ok_iff, ofChecked_eq_ok_iff, emissionOf_eq_ok_iff, Walk.outcome_pure,
    Except.ok.injEq]
  refine ⟨?_, ?_⟩
  · rintro ⟨arguments, harguments, emission, ⟨struct, hstruct, hemission⟩, rfl⟩
    exact ⟨arguments, struct, emission, harguments, hstruct, hemission, rfl⟩
  · rintro ⟨arguments, struct, emission, harguments, hstruct, hemission, rfl⟩
    exact ⟨arguments, harguments, emission, ⟨struct, hstruct, hemission⟩, rfl⟩

/-- An item that is no module becomes what it becomes on its own. -/
theorem ofInner_leaf_eq_ok_iff (base : Configuration) (enclosing : List MarkerArguments)
    {item : Item} (hmodule : item.isModule = false) (session : Session) (expanded : Item) :
    ((ofInner (base.inside enclosing) item).outcome session).1 = .ok expanded ↔
      ExpandsTo base enclosing item expanded := by
  rw [ofInner_of_isModule_eq_false hmodule]
  cases hmarker : Attribute.takeMarker? item.attributes with
  | none =>
    refine ⟨fun h => ?_, fun h => ?_⟩
    · cases h
      exact .unmarked hmodule hmarker
    · cases h with
      | unmarked => rfl
      | struct hother => cases hmarker.symm.trans hother
      | outline => cases hmodule
      | inner => cases hmodule
      | markedInner => cases hmodule
  | some taken =>
    obtain ⟨marker, others⟩ := taken
    rw [ofMarked_eq_ok_iff]
    refine ⟨?_, fun h => ?_⟩
    · rintro ⟨arguments, struct, emission, harguments, hstruct, hemission, rfl⟩
      cases item with
      | record own =>
        cases hstruct
        rw [← Configuration.inside_append] at hemission
        exact .struct hmarker harguments hemission
      | _ => cases hstruct
    · cases h with
      | unmarked _ hnone => cases hmarker.symm.trans hnone
      | struct hsame harguments hemission =>
        cases hmarker.symm.trans hsame
        rw [Configuration.inside_append] at hemission
        exact ⟨_, _, _, harguments, rfl, hemission, rfl⟩
      | outline => cases hmodule
      | inner => cases hmodule
      | markedInner => cases hmodule

/-- A module becomes what it becomes on its own if its items do. -/
theorem ofInner_inlineModule_eq_ok_iff (base : Configuration) (enclosing : List MarkerArguments)
    {content : List Item}
    (hcontent : ∀ inner (later : Session) expanded,
      Host.gather ((ofInners (base.inside inner) content).run later).1 = .ok expanded ↔
        ExpandAllTo base inner content expanded)
    {attributes : List Attribute} {head : List Tree} {opening closing : Option Region}
    (session : Session) (expanded : Item) :
    ((ofInner (base.inside enclosing)
        (.inlineModule attributes head opening closing content)).outcome session).1 =
          .ok expanded ↔
      ExpandsTo base enclosing (.inlineModule attributes head opening closing content) expanded := by
  have hgathered (inner : List MarkerArguments) (later : Session) (items : List Item) :
      (Walk.outcome (ExceptT.mk (Host.gather <$> ofInners (base.inside inner) content)) later).1 =
        .ok items ↔ ExpandAllTo base inner content items := hcontent inner later items
  unfold ofInner
  simp only [Walk.bind_eq_ok_iff, ofChecked_eq_ok_iff, Walk.outcome_pure, Except.ok.injEq]
  cases hmarker : Attribute.takeMarker? attributes with
  | none =>
    have hwithout : Attribute.withoutMarker attributes = attributes := by
      rw [Attribute.withoutMarker, hmarker]
    rw [hwithout]
    refine ⟨?_, fun h => ?_⟩
    · rintro ⟨inner, hinner, items, hitems, rfl⟩
      cases hinner
      exact .inner hmarker ((hgathered _ _ _).mp hitems)
    · cases h with
      | unmarked hmodule => cases hmodule
      | inner _ hcontent => exact ⟨_, rfl, _, (hgathered _ _ _).mpr hcontent, rfl⟩
      | markedInner hother => cases hmarker.symm.trans hother
  | some taken =>
    obtain ⟨marker, others⟩ := taken
    have hwithout : Attribute.withoutMarker attributes = others := by
      rw [Attribute.withoutMarker, hmarker]
    rw [hwithout]
    simp only [Option.map_some, innerConfiguration_some_eq_ok_iff]
    refine ⟨?_, fun h => ?_⟩
    · rintro ⟨inner, ⟨arguments, harguments, hrename, rfl⟩, items, hitems, rfl⟩
      rw [← Configuration.inside_append] at hitems
      exact .markedInner hmarker harguments hrename ((hgathered _ _ _).mp hitems)
    · cases h with
      | unmarked hmodule => cases hmodule
      | inner hnone => cases hmarker.symm.trans hnone
      | markedInner hsame harguments hrename hcontent =>
        cases hmarker.symm.trans hsame
        refine ⟨_, ⟨_, harguments, hrename, rfl⟩, _, ?_, rfl⟩
        rw [← Configuration.inside_append]
        exact (hgathered _ _ _).mpr hcontent

mutual

/-- An item that is expanded successfully becomes what it becomes on its own. -/
theorem ofInner_eq_ok_iff (base : Configuration) (enclosing : List MarkerArguments) :
    ∀ (item : Item) (session : Session) (expanded : Item),
      ((ofInner (base.inside enclosing) item).outcome session).1 = .ok expanded ↔
        ExpandsTo base enclosing item expanded
  | .outlineModule attributes head, session, expanded => by
    unfold ofInner
    rw [Walk.outcome_pure]
    refine ⟨fun h => ?_, fun h => ?_⟩
    · cases h
      exact .outline
    · cases h with
      | unmarked hmodule => cases hmodule
      | outline => rfl
  | .inlineModule attributes head opening closing content, session, expanded =>
    ofInner_inlineModule_eq_ok_iff base enclosing
      (fun inner later items => gather_ofInners_eq_ok_iff base inner content later items)
      session expanded
  | .record item, session, expanded => ofInner_leaf_eq_ok_iff base enclosing rfl session expanded
  | .enumeration item, session, expanded => ofInner_leaf_eq_ok_iff base enclosing rfl session expanded
  | .unionType item, session, expanded => ofInner_leaf_eq_ok_iff base enclosing rfl session expanded
  | .other item, session, expanded => ofInner_leaf_eq_ok_iff base enclosing rfl session expanded
  | .verbatim tokens, session, expanded => ofInner_leaf_eq_ok_iff base enclosing rfl session expanded

/-- So do the items of a module. -/
theorem gather_ofInners_eq_ok_iff (base : Configuration) (enclosing : List MarkerArguments) :
    ∀ (items : List Item) (session : Session) (expanded : List Item),
      Host.gather ((ofInners (base.inside enclosing) items).run session).1 = .ok expanded ↔
        ExpandAllTo base enclosing items expanded
  | [], session, expanded => by
    refine ⟨fun h => ?_, fun h => ?_⟩
    · cases h
      exact .nil
    · cases h
      rfl
  | item :: rest, session, expanded => by
    rw [run_ofInners_cons, Host.gather_cons_eq_ok_iff]
    refine ⟨?_, fun h => ?_⟩
    · rintro ⟨value, others, hitem, hrest, rfl⟩
      exact .cons ((ofInner_eq_ok_iff base enclosing item _ _).mp hitem)
        ((gather_ofInners_eq_ok_iff base enclosing rest _ _).mp hrest)
    · cases h with
      | cons hitem hrest =>
        exact ⟨_, _, (ofInner_eq_ok_iff base enclosing item _ _).mpr hitem,
          (gather_ofInners_eq_ok_iff base enclosing rest _ _).mpr hrest, rfl⟩

end

end Expansion

/-! ## Whole modules -/

/-- Items in a row are written one after the other. -/
theorem Item.tokensAll_treesAll (items : List Item) :
    Tree.tokensAll (treesAll items) = items.flatMap tokens := by
  induction items with
  | nil => rfl
  | cons item rest ih =>
    rw [treesAll, Tree.tokensAll_cons, ih]
    rfl

/-- A module is written as its head and, in braces, its items. -/
theorem Item.tokens_inlineModule (attributes : List Attribute) (head : List Tree)
    (opening closing : Option Region) (content : List Item) :
    (inlineModule attributes head opening closing content).tokens =
      Tree.tokensAll (Attribute.outer attributes ++ head) ++
        [.group .brace opening closing
          (Tree.tokensAll (Attribute.inner attributes) ++ content.flatMap tokens)] := by
  rw [tokens, trees, Tree.tokensAll_append, Tree.tokensAll_cons, Tree.tokens,
    Tree.tokensAll_append (Attribute.inner attributes), tokensAll_treesAll]
  simp

/-- The expansion of a module succeeds exactly if its marker does not rename and each of its items,
at any depth, can be expanded on its own. Then the module is written with its items replaced one by
one: a marked struct by what is emitted for it in a session of its own, with what the markers around
it and its own one choose, and an inner module by itself without its first marker, its own items
being replaced alike. Inside of a session the outcome for an item, also a failure, is the same
whatever was registered before. -/
theorem module_expands_item_by_item (base : Configuration) (arguments : MarkerArguments)
    (attributes : List Attribute) (head : List Tree) (opening closing : Option Region)
    (content : List Item) :
    (∀ tokens, Expansion.ofItem base arguments
        (.inlineModule attributes head opening closing content) = .ok tokens ↔
      arguments.rename = none ∧ ∃ expanded,
        List.Forall₂ (ExpandsTo base [arguments]) content expanded ∧
        tokens = Tree.tokensAll (Attribute.outer attributes ++ head) ++
          [.group .brace opening closing
            (Tree.tokensAll (Attribute.inner attributes) ++ expanded.flatMap Item.tokens)]) ∧
    ∀ configuration item (session other : Session),
      ((Expansion.ofInner configuration item).outcome session).1 =
        ((Expansion.ofInner configuration item).outcome other).1 := by
  refine ⟨fun tokens => ?_, Expansion.isSteady_ofInner⟩
  have hgathered (later : Session) (items : List Item) :
      (Expansion.Walk.outcome (ExceptT.mk
        (Host.gather <$> Expansion.ofInners (base.inside [arguments]) content)) later).1 = .ok items ↔
        List.Forall₂ (ExpandsTo base [arguments]) content items :=
    (Expansion.gather_ofInners_eq_ok_iff base [arguments] content later items).trans
      expandAllTo_iff_forall₂
  have hinside : base.inside [arguments] = base.overriding arguments := rfl
  unfold Expansion.ofItem Expansion.ofOuter
  simp only [Expansion.Walk.bind_eq_ok_iff, Expansion.ofChecked_eq_ok_iff,
    Expansion.moduleConfiguration_eq_ok_iff, Expansion.Walk.outcome_pure, Except.ok.injEq]
  refine ⟨?_, ?_⟩
  · rintro ⟨inner, ⟨hrename, rfl⟩, items, hitems, rfl⟩
    rw [← hinside] at hitems
    exact ⟨hrename, items, (hgathered _ _).mp hitems, Item.tokens_inlineModule ..⟩
  · rintro ⟨hrename, items, hitems, rfl⟩
    refine ⟨_, ⟨hrename, rfl⟩, items, ?_, Item.tokens_inlineModule ..⟩
    rw [← hinside]
    exact (hgathered _ _).mpr hitems

end Counterpart
