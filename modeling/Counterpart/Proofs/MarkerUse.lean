import Counterpart.Proofs.Rejection
import Counterpart.Token.Printer

/-!
# What markers are used for

The walk through a module takes the first marker off an item before it looks at what the item is.
Then the marker of a struct is used for the counterpart of the struct, and that of a module with its
content for the items inside. Every other marker makes the expansion fail, with one exception: a
module whose content is elsewhere is left before its marker is read.
-/

namespace Counterpart

/-! ## Items at any depth -/

/-- The item is one of the given items, or inside of a module that is, at any depth. -/
inductive Nested : List Item → Item → Prop
  | here {content : List Item} {item : Item} (hmem : item ∈ content) : Nested content item
  | inside {content inner : List Item} {attributes : List Attribute} {head : List Tree}
    {opening closing : Option Region} {item : Item}
    (hmodule : .inlineModule attributes head opening closing inner ∈ content)
    (hitem : Nested inner item) : Nested content item

/-- The arguments of the markers around the items of a module: those around the module, and then
those of its own marker, if it has one and it is accepted. -/
inductive Encloses (enclosing : List MarkerArguments) (attributes : List Attribute) :
    List MarkerArguments → Prop
  | unmarked (hmarker : Attribute.takeMarker? attributes = none) :
    Encloses enclosing attributes enclosing
  | marked {marker : Attribute} {others : List Attribute} {arguments : MarkerArguments}
    (hmarker : Attribute.takeMarker? attributes = some (marker, others))
    (harguments : MarkerArguments.ofMarker marker = .ok arguments)
    (hrename : arguments.rename = none) : Encloses enclosing attributes (enclosing ++ [arguments])

/-- The item stands among the given items, at any depth, inside of modules with accepted markers.
The last list has the arguments of all markers around it. -/
inductive StandsInside : List MarkerArguments → List Item → List MarkerArguments → Item → Prop
  | here {enclosing : List MarkerArguments} {content : List Item} {item : Item}
    (hmem : item ∈ content) : StandsInside enclosing content enclosing item
  | inside {enclosing deeper innermost : List MarkerArguments} {content inner : List Item}
    {attributes : List Attribute} {head : List Tree} {opening closing : Option Region} {item : Item}
    (hmodule : .inlineModule attributes head opening closing inner ∈ content)
    (hencloses : Encloses enclosing attributes deeper)
    (hitem : StandsInside deeper inner innermost item) :
    StandsInside enclosing content innermost item

/-- The first item stands among the items of a module, at any depth, where the second one stands
among the items of another. The last list has the arguments of all markers around the first. -/
inductive Paired : List MarkerArguments → List Item → List Item → List MarkerArguments → Item →
    Item → Prop
  | here {enclosing : List MarkerArguments} {content expanded : List Item} {item after : Item}
    {place : Nat} (hitem : content[place]? = some item) (hafter : expanded[place]? = some after) :
    Paired enclosing content expanded enclosing item after
  | inside {enclosing deeper innermost : List MarkerArguments}
    {content expanded inner later : List Item} {attributes left : List Attribute} {head : List Tree}
    {opening closing : Option Region} {item after : Item} {place : Nat}
    (hmodule : content[place]? = some (.inlineModule attributes head opening closing inner))
    (hleft : expanded[place]? = some (.inlineModule left head opening closing later))
    (hencloses : Encloses enclosing attributes deeper)
    (hitem : Paired deeper inner later innermost item after) :
    Paired enclosing content expanded innermost item after

/-- What the first marker of an item was used for, from the item and what it became. -/
inductive Used (base : Configuration) (enclosing : List MarkerArguments) (marker : Attribute)
    (others : List Attribute) : Item → Item → Prop
  /-- The struct is expanded with the arguments of the marker. -/
  | host {struct : StructItem} {arguments : MarkerArguments} {emission : Emission}
    (harguments : MarkerArguments.ofMarker marker = .ok arguments)
    (hemission : EmitsAlone { struct with attributes := others }
      (base.inside (enclosing ++ [arguments])) arguments.rename emission) :
    Used base enclosing marker others (.record struct) (.verbatim emission.tokens)
  /-- The arguments of the marker hold for the items of the module. -/
  | configuration {attributes : List Attribute} {head : List Tree} {opening closing : Option Region}
    {content expanded : List Item} {arguments : MarkerArguments}
    (harguments : MarkerArguments.ofMarker marker = .ok arguments)
    (hrename : arguments.rename = none)
    (hcontent : List.Forall₂ (ExpandsTo base (enclosing ++ [arguments])) content expanded) :
    Used base enclosing marker others (.inlineModule attributes head opening closing content)
      (.inlineModule others head opening closing expanded)
  /-- The marker of a module whose content is elsewhere is not read. -/
  | unread {attributes : List Attribute} {head : List Tree} :
    Used base enclosing marker others (.outlineModule attributes head) (.outlineModule others head)

/-- The marker is good for nothing: the item is neither a struct nor a module, or its arguments are
rejected where they are read. -/
def IsUnusable (marker : Attribute) (item : Item) : Prop :=
  (∀ struct, item ≠ .record struct) ∧ item.isModule = false ∨
    (∀ attributes head, item ≠ .outlineModule attributes head) ∧
      ∀ accepted, MarkerArguments.ofMarker marker ≠ .ok accepted

variable {base : Configuration} {enclosing deeper innermost : List MarkerArguments}
variable {content expanded : List Item} {item after : Item} {marker : Attribute}
variable {others : List Attribute}

/-! ## Successful expansions -/

/-- What is around the items of a module is known from what is around the module. -/
theorem Encloses.unique {attributes : List Attribute} {other : List MarkerArguments}
    (hfirst : Encloses enclosing attributes deeper)
    (hsecond : Encloses enclosing attributes other) : deeper = other := by
  cases hfirst with
  | unmarked hmarker =>
    cases hsecond with
    | unmarked => rfl
    | marked hother => cases hmarker.symm.trans hother
  | marked hmarker harguments =>
    cases hsecond with
    | unmarked hother => cases hmarker.symm.trans hother
    | marked hother hagain =>
      cases hmarker.symm.trans hother
      cases harguments.symm.trans hagain
      rfl

/-- A module becomes a module around what its items become. -/
theorem exists_of_expandsTo_inlineModule {attributes : List Attribute} {head : List Tree}
    {opening closing : Option Region}
    (h : ExpandsTo base enclosing (.inlineModule attributes head opening closing content) after) :
    ∃ deeper left later, Encloses enclosing attributes deeper ∧
      List.Forall₂ (ExpandsTo base deeper) content later ∧
        after = .inlineModule left head opening closing later := by
  cases h with
  | unmarked hmodule => cases hmodule
  | inner hmarker hcontent =>
    exact ⟨_, _, _, .unmarked hmarker, expandAllTo_iff_forall₂.mp hcontent, rfl⟩
  | markedInner hmarker harguments hrename hcontent =>
    exact ⟨_, _, _, .marked hmarker harguments hrename, expandAllTo_iff_forall₂.mp hcontent, rfl⟩

/-- Items that stand at the same place of lists are related as the lists are. -/
theorem expandsTo_of_place (h : List.Forall₂ (ExpandsTo base enclosing) content expanded)
    {place : Nat} (hitem : content[place]? = some item) (hafter : expanded[place]? = some after) :
    ExpandsTo base enclosing item after := by
  obtain ⟨hplace, rfl⟩ := List.getElem?_eq_some_iff.mp hitem
  obtain ⟨hlater, rfl⟩ := List.getElem?_eq_some_iff.mp hafter
  exact h.get hplace hlater

/-- An item at any depth becomes what stands where it stood. -/
theorem expandsTo_of_paired (hpaired : Paired enclosing content expanded innermost item after)
    (h : List.Forall₂ (ExpandsTo base enclosing) content expanded) :
    ExpandsTo base innermost item after := by
  induction hpaired with
  | here hitem hafter => exact expandsTo_of_place h hitem hafter
  | inside hmodule hleft hencloses _ ih =>
    obtain ⟨other, left, later, hother, hcontent, hafter⟩ :=
      exists_of_expandsTo_inlineModule (expandsTo_of_place h hmodule hleft)
    cases hafter
    cases hencloses.unique hother
    exact ih hcontent

/-- Every item at any depth is still there, or something stands in its place. -/
theorem exists_paired (hnested : Nested content item)
    (h : List.Forall₂ (ExpandsTo base enclosing) content expanded) :
    ∃ innermost after, Paired enclosing content expanded innermost item after := by
  induction hnested generalizing enclosing expanded with
  | here hmem =>
    obtain ⟨place, hplace, rfl⟩ := List.getElem_of_mem hmem
    have hlater := h.length_eq ▸ hplace
    exact ⟨enclosing, _, .here (List.getElem?_eq_getElem hplace) (List.getElem?_eq_getElem hlater)⟩
  | inside hmodule _ ih =>
    obtain ⟨place, hplace, hat⟩ := List.getElem_of_mem hmodule
    have hitem := (List.getElem?_eq_getElem hplace).trans (congrArg some hat)
    have hafter := List.getElem?_eq_getElem (h.length_eq ▸ hplace)
    obtain ⟨deeper, left, later, hencloses, hcontent, hleft⟩ :=
      exists_of_expandsTo_inlineModule (expandsTo_of_place h hitem hafter)
    obtain ⟨innermost, after, hpaired⟩ := ih hcontent
    exact ⟨innermost, after, .inside hitem (hafter.trans (congrArg some hleft)) hencloses hpaired⟩

/-- A marker that is taken off an item is used, or not read. -/
theorem used_of_expandsTo (h : ExpandsTo base enclosing item after)
    (hmarker : Attribute.takeMarker? item.attributes = some (marker, others)) :
    Used base enclosing marker others item after := by
  cases h with
  | unmarked _ hnone => cases hnone.symm.trans hmarker
  | struct hown harguments hemission =>
    cases hown.symm.trans hmarker
    exact .host harguments hemission
  | outline =>
    rw [Item.attributes] at hmarker
    rw [Attribute.withoutMarker, hmarker]
    exact .unread
  | inner hnone => cases hnone.symm.trans hmarker
  | markedInner hown harguments hrename hcontent =>
    cases hown.symm.trans hmarker
    exact .configuration harguments hrename (expandAllTo_iff_forall₂.mp hcontent)

/-- A marker that was used was good for something. -/
theorem Used.not_isUnusable (h : Used base enclosing marker others item after) :
    ¬ IsUnusable marker item := by
  rintro (⟨hstruct, hmodule⟩ | ⟨hinline, hrejected⟩)
  · cases h with
    | host => exact hstruct _ rfl
    | configuration => cases hmodule
    | unread => cases hmodule
  · cases h with
    | host harguments => exact hrejected _ harguments
    | configuration harguments => exact hrejected _ harguments
    | unread => exact hinline _ _ rfl

/-- An item without a marker keeps its attributes. -/
theorem attributes_of_expandsTo (h : ExpandsTo base enclosing item after)
    (hmarker : Attribute.takeMarker? item.attributes = none) :
    after.attributes = item.attributes := by
  cases h with
  | unmarked => rfl
  | struct hown => cases hown.symm.trans hmarker
  | outline =>
    rw [Item.attributes] at hmarker
    rw [Attribute.withoutMarker, hmarker]
  | inner => rfl
  | markedInner hown => cases hown.symm.trans hmarker

/-- A module that is expanded is written with what its items become. -/
theorem Expansion.exists_expanded_of_ofItem {arguments : MarkerArguments}
    {attributes : List Attribute} {head : List Tree} {opening closing : Option Region}
    {tokens : List TokenTree}
    (h : ofItem base arguments (.inlineModule attributes head opening closing content) =
      .ok tokens) :
    arguments.rename = none ∧
      ∃ expanded, List.Forall₂ (ExpandsTo base [arguments]) content expanded ∧
        tokens = (Item.inlineModule attributes head opening closing expanded).tokens := by
  obtain ⟨inner, hinner, h⟩ := Walk.bind_eq_ok_iff.mp h
  obtain ⟨hrename, rfl⟩ := moduleConfiguration_eq_ok_iff.mp (ofChecked_eq_ok_iff.mp hinner)
  obtain ⟨expanded, hexpanded, hwritten⟩ := Walk.bind_eq_ok_iff.mp h
  refine ⟨hrename, expanded, expandAllTo_iff_forall₂.mp ?_, (Except.ok.inj hwritten).symm⟩
  exact (gather_ofInners_eq_ok_iff base [arguments] content _ expanded).mp hexpanded

/-! ## Failing expansions -/

namespace Expansion

open Generated

/-- Items answer for what each of them answers for. -/
theorem answering_subset_answeringAll (configuration : Configuration) (hmem : item ∈ content) :
    answering configuration item ⊆ answeringAll configuration content := by
  induction content with
  | nil => cases hmem
  | cons first rest ih =>
    rw [answeringAll]
    rcases List.mem_cons.mp hmem with rfl | hrest
    · exact List.subset_append_left _ _
    · exact List.Subset.trans (ih hrest) (List.subset_append_right _ _)

theorem innerConfiguration_of_encloses {attributes : List Attribute}
    (h : Encloses enclosing attributes deeper) :
    innerConfiguration (base.inside enclosing) ((Attribute.takeMarker? attributes).map (·.1)) =
      .ok (base.inside deeper) := by
  cases h with
  | unmarked hmarker =>
    rw [hmarker]
    rfl
  | marked hmarker harguments hrename =>
    rw [hmarker]
    exact innerConfiguration_some_eq_ok_iff.mpr
      ⟨_, harguments, hrename, Configuration.inside_append base enclosing _⟩

/-- What stands inside of accepted modules is answered for. -/
theorem answering_subset_of_standsInside (base : Configuration)
    (h : StandsInside enclosing content innermost item) :
    answering (base.inside innermost) item ⊆ answeringAll (base.inside enclosing) content := by
  induction h with
  | here hmem => exact answering_subset_answeringAll _ hmem
  | inside hmodule hencloses _ ih =>
    refine List.Subset.trans ?_ (answering_subset_answeringAll _ hmodule)
    rw [answering, innerConfiguration_of_encloses hencloses]
    exact ih

variable {arguments : MarkerArguments} {attributes : List Attribute} {head : List Tree}
variable {opening closing : Option Region} {found : List Diagnostic}

/-- What is wrong with a marked item alone is wrong with the module that answers for it. -/
theorem diagnostics_alone_subset (hrename : arguments.rename = none)
    (hrejected : ofItem base arguments (.inlineModule attributes head opening closing content) =
      .error (.rejected found)) {marked : MarkedItem}
    (hmem : marked ∈ answeringAll (base.inside [arguments]) content) :
    diagnostics (marked.alone base) ⊆ found := by
  have hinner : moduleConfiguration base arguments = .ok (base.inside [arguments]) :=
    moduleConfiguration_eq_ok_iff.mpr ⟨hrename, rfl⟩
  have hunfolded : failure? (Host.gather (unfoldAll (base.inside [arguments]) content)) =
      some (.rejected found) := by
    rw [ofItem_inlineModule, hinner] at hrejected
    change Host.gather (unfoldAll (base.inside [arguments]) content) >>= _ = _ at hrejected
    cases hgather : Host.gather (unfoldAll (base.inside [arguments]) content) with
    | ok items =>
      rw [hgather] at hrejected
      cases hrejected
    | error reason =>
      rw [hgather] at hrejected
      cases hrejected
      rfl
  rw [failure?_unfoldAll] at hunfolded
  have hfits : .error .brokenTemplate ∉ (answeringAll (base.inside [arguments]) content).map
      (·.alone base) := by
    rw [← Host.failure?_gather_eq_broken_iff, hunfolded]
    nofun
  have htold := Host.diagnostics_gather hfits
  rw [diagnostics, hunfolded] at htold
  intro diagnostic hdiagnostic
  rw [show found = _ from htold]
  exact List.mem_flatMap.mpr ⟨_, List.mem_map_of_mem hmem, hdiagnostic⟩

/-- An item whose marker is rejected answers for itself, unless it is a module whose content is
elsewhere. -/
theorem mem_answering_of_rejected {configuration : Configuration} {own : List Diagnostic}
    (hmarker : Attribute.takeMarker? item.attributes = some (marker, others))
    (hinline : ∀ attributes head, item ≠ .outlineModule attributes head)
    (harguments : MarkerArguments.ofMarker marker = .error own) :
    ⟨configuration, marker, item.withAttributes others⟩ ∈ answering configuration item := by
  cases item with
  | outlineModule attributes head => exact absurd rfl (hinline attributes head)
  | inlineModule attributes head opening closing content =>
    rw [Item.attributes] at hmarker
    have hinner : innerConfiguration configuration (some marker) = .error own := by
      rw [innerConfiguration, harguments]
      rfl
    rw [answering, hmarker, Option.map_some, hinner]
    exact List.mem_singleton.mpr rfl
  | _ =>
    rw [answering_of_isModule_eq_false rfl, hmarker]
    exact List.mem_singleton.mpr rfl

/-- An item that is no module answers for itself. -/
theorem mem_answering_of_isModule_eq_false {configuration : Configuration}
    (hmarker : Attribute.takeMarker? item.attributes = some (marker, others))
    (hmodule : item.isModule = false) :
    ⟨configuration, marker, item.withAttributes others⟩ ∈ answering configuration item := by
  rw [answering_of_isModule_eq_false hmodule, hmarker]
  exact List.mem_singleton.mpr rfl

theorem diagnostics_alone_of_rejected {configuration : Configuration} {own : List Diagnostic}
    (harguments : MarkerArguments.ofMarker marker = .error own) :
    diagnostics (MarkedItem.alone base ⟨configuration, marker, item⟩) = own := by
  rw [MarkedItem.alone, harguments]
  rfl

theorem diagnostics_alone_of_asHost {configuration : Configuration} {own : List Diagnostic}
    {accepted : MarkerArguments} (harguments : MarkerArguments.ofMarker marker = .ok accepted)
    (hmodule : item.isModule = false) (hhost : item.asHost = .error own) :
    diagnostics (MarkedItem.alone base ⟨configuration, marker, item⟩) = own := by
  have halone : MarkedItem.alone base ⟨configuration, marker, item⟩ =
      ofItem base (accepted.spelledOut configuration) item := by
    rw [MarkedItem.alone, harguments]
    rfl
  rw [halone, ofItem_of_isModule_eq_false hmodule, emissionAlone_eq, hhost]
  rfl

variable {own : List Diagnostic}

/-- What is wrong with the arguments of a marker is reported. -/
theorem reported_of_rejected_marker (hrename : arguments.rename = none)
    (hstands : StandsInside [arguments] content enclosing item)
    (hmarker : Attribute.takeMarker? item.attributes = some (marker, others))
    (hrejected : ofItem base arguments (.inlineModule attributes head opening closing content) =
      .error (.rejected found))
    (hinline : ∀ attributes head, item ≠ .outlineModule attributes head)
    (harguments : MarkerArguments.ofMarker marker = .error own) : own ⊆ found := by
  have hmem := answering_subset_of_standsInside base hstands
    (mem_answering_of_rejected hmarker hinline harguments)
  have htold := diagnostics_alone_subset hrename hrejected hmem
  rwa [diagnostics_alone_of_rejected harguments] at htold

/-- Why a marked item cannot be a host is reported. -/
theorem reported_of_asHost (hrename : arguments.rename = none)
    (hstands : StandsInside [arguments] content enclosing item)
    (hmarker : Attribute.takeMarker? item.attributes = some (marker, others))
    (hrejected : ofItem base arguments (.inlineModule attributes head opening closing content) =
      .error (.rejected found))
    {accepted : MarkerArguments} (harguments : MarkerArguments.ofMarker marker = .ok accepted)
    (hmodule : item.isModule = false) (hhost : (item.withAttributes others).asHost = .error own) :
    own ⊆ found := by
  have hmem := answering_subset_of_standsInside base hstands
    (mem_answering_of_isModule_eq_false hmarker hmodule)
  have htold := diagnostics_alone_subset hrename hrejected hmem
  have hother := (item.isModule_withAttributes others).trans hmodule
  rwa [diagnostics_alone_of_asHost harguments hother hhost] at htold

end Expansion

open Expansion in
/-- When a module is expanded, every marker that is taken off an item inside of it, at any depth, is
used: for the counterpart of a struct or for the items of a module. The exception is a module whose
content is elsewhere, which loses its marker unread. A marker on any other item ends the expansion,
and so do arguments that are no good, but for the same exception. What is wrong with them is
reported, if the markers around them are accepted. -/
theorem marker_used_or_reported (base : Configuration) (arguments : MarkerArguments)
    (attributes : List Attribute) (head : List Tree) (opening closing : Option Region)
    (content : List Item) :
    (∀ tokens, ofItem base arguments (.inlineModule attributes head opening closing content) =
        .ok tokens →
      ∃ expanded, tokens = (Item.inlineModule attributes head opening closing expanded).tokens ∧
        (∀ item, Nested content item →
          ∃ enclosing after, Paired [arguments] content expanded enclosing item after) ∧
        ∀ enclosing item after, Paired [arguments] content expanded enclosing item after →
          (Attribute.takeMarker? item.attributes = none → after.attributes = item.attributes) ∧
          ∀ marker others, Attribute.takeMarker? item.attributes = some (marker, others) →
            Used base enclosing marker others item after) ∧
    (∀ item marker others, Nested content item →
      Attribute.takeMarker? item.attributes = some (marker, others) → IsUnusable marker item →
        ∃ reason, ofItem base arguments (.inlineModule attributes head opening closing content) =
          .error reason) ∧
    ∀ enclosing item marker others found, arguments.rename = none →
      StandsInside [arguments] content enclosing item →
        Attribute.takeMarker? item.attributes = some (marker, others) →
          ofItem base arguments (.inlineModule attributes head opening closing content) =
            .error (.rejected found) →
          (∀ own, MarkerArguments.ofMarker marker = .error own →
            (∀ attributes head, item ≠ .outlineModule attributes head) → own ⊆ found) ∧
          ∀ accepted own, MarkerArguments.ofMarker marker = .ok accepted →
            item.isModule = false → (item.withAttributes others).asHost = .error own →
              own ⊆ found := by
  refine ⟨fun tokens h => ?_, fun item marker others hnested hmarker hunusable => ?_, ?_⟩
  · obtain ⟨-, expanded, hexpanded, rfl⟩ := exists_expanded_of_ofItem h
    refine ⟨expanded, rfl, fun item hnested => exists_paired hnested hexpanded, ?_⟩
    intro enclosing item after hpaired
    have hitem := expandsTo_of_paired hpaired hexpanded
    exact ⟨attributes_of_expandsTo hitem, fun marker others => used_of_expandsTo hitem⟩
  · cases hresult : ofItem base arguments (.inlineModule attributes head opening closing content) with
    | error reason => exact ⟨reason, rfl⟩
    | ok tokens =>
      obtain ⟨-, expanded, hexpanded, -⟩ := exists_expanded_of_ofItem hresult
      obtain ⟨enclosing, after, hpaired⟩ := exists_paired hnested hexpanded
      have hused := used_of_expandsTo (expandsTo_of_paired hpaired hexpanded) hmarker
      exact absurd hunusable hused.not_isUnusable
  · intro enclosing item marker others found hrename hstands hmarker hrejected
    exact ⟨fun own harguments hinline =>
        reported_of_rejected_marker hrename hstands hmarker hrejected hinline harguments,
      fun accepted own harguments hmodule hhost =>
        reported_of_asHost hrename hstands hmarker hrejected harguments hmodule hhost⟩

namespace Sample

/-- What is generated for an item that is annotated without arguments, if nothing is wrong. -/
def written (source : String) : Option String := do
  let code ← TokenTree.ofSource? source
  let item ← (Grammar.read (fun grammar => grammar.item) code).toOption
  let tokens ← (Expansion.generated .standard [] item).toOption
  pure (TokenTree.renderAll tokens)

end Sample

/-- A module whose content is elsewhere cannot be marked, but inside of another module its marker is
gone without an error, whatever the arguments. -/
theorem outline_marker_dropped :
    Sample.causes "mod x;" = some [.outlineModule] ∧
    Sample.written "mod m \x7b #[piecemeal] mod x; \x7d" = some "mod m \x7b mod x ; \x7d" ∧
    Sample.written "mod m \x7b #[piecemeal(unknown)] mod x; \x7d" =
      some "mod m \x7b mod x ; \x7d" := by
  decide +kernel

end Counterpart
