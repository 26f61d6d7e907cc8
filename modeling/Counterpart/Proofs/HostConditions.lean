import Counterpart.Proofs.FieldConditions
import Counterpart.Proofs.Unfolding

/-!
# Hosts that do not exist

A module is expanded before the conditions of its items are decided. What is emitted for a host are
five items, and the conditions of the host stand on the first of them only, the struct itself. So
removing the disabled items of a module behind the expansion leaves four items for every disabled
host, where expanding the module without the host leaves none. Nothing else differs.
-/

namespace Counterpart

open Template

/-! ## Emitted items -/

namespace Emission

/-- An implementation as an item. -/
def implementation (attributes : List Attribute) (head content : List TokenTree) : Item :=
  .other
    ⟨attributes, Tree.opaqueTokens head, some ⟨none, none, Tree.opaqueTokens content, false⟩⟩

/-- The function that makes the default of the counterpart. -/
def defaultFunction (emission : Emission) : List TokenTree :=
  (Attribute.ofWord "inline").tokens ++ word "fn" ++ word "default" ++ parentheses [] ++ mark "->"
    ++ word "Self"
    ++ braces (word "Self" ++ mark "::" ++ name emission.constructor ++ parentheses [])

/-- The items that are emitted beside the host. -/
def companions (emission : Emission) : List Item :=
  [.record { emission.counterpart with attributes := emission.counterpartAttributes },
   implementation [] (emission.counterpart.implHead [])
     (emission.counterpartFunctions.flatMap (·.tokens)),
   implementation [Attribute.ofWord "automatically_derived"]
     (emission.counterpart.implHead (defaultPath ++ word "for")) emission.defaultFunction,
   implementation [] (emission.host.implHead []) (emission.hostFunctions.flatMap (·.tokens))]

/-- The emitted items. -/
def items (emission : Emission) : List Item := .record emission.host :: emission.companions

end Emission

/-- The default of the counterpart is made by this function. -/
theorem Emission.defaultTokens_eq (emission : Emission) :
    emission.defaultTokens = (Attribute.ofWord "automatically_derived").tokens
      ++ emission.counterpart.implHead (defaultPath ++ word "for")
      ++ braces emission.defaultFunction := rfl

/-- Attributes that stand in front are written one after the other. -/
theorem Attribute.tokensAll_outer {attributes : List Attribute}
    (h : ∀ attr ∈ attributes, attr.isInner = false) :
    Tree.tokensAll (outer attributes) = attributes.flatMap (·.tokens) := by
  have hall : attributes.filter (!·.isInner) = attributes :=
    List.filter_eq_self.mpr fun attr hattr => by rw [h attr hattr]; rfl
  rw [outer, hall]
  clear h hall
  induction attributes with
  | nil => rfl
  | cons attr rest ih => rw [List.map_cons, Tree.tokensAll_cons, ih, List.flatMap_cons, tokens]

/-- An implementation is written as its attributes, its head and its content in braces. -/
theorem Emission.tokens_implementation {attributes : List Attribute}
    (h : ∀ attr ∈ attributes, attr.isInner = false) (head content : List TokenTree) :
    (implementation attributes head content).tokens =
      attributes.flatMap (·.tokens) ++ head ++ braces content := by
  have hnone : Attribute.inner attributes = [] := by
    rw [Attribute.inner, List.map_eq_nil_iff, List.filter_eq_nil_iff]
    exact fun attr hattr => by simp [h attr hattr]
  rw [← Attribute.tokensAll_outer h]
  simp [implementation, Item.tokens, Item.trees, OtherItem.trees, Tree.tokens, hnone, braces,
    groupToken]

/-- A struct without attributes is written behind those that it is given. -/
theorem StructItem.tokens_attributed {item : StructItem} (hnone : item.attributes = [])
    {attributes : List Attribute} (h : ∀ attr ∈ attributes, attr.isInner = false) :
    (Item.record { item with attributes }).tokens =
      attributes.flatMap (·.tokens) ++ item.tokens := by
  rw [← Attribute.tokensAll_outer h]
  simp only [Item.tokens, Item.trees, StructItem.tokens, StructItem.trees, hnone]
  cases item.fields <;> simp [Attribute.outer]

/-- The code for a host is that of the emitted items. -/
theorem Host.tokens_items_assembled (host : Host) :
    host.assembled.items.flatMap Item.tokens = host.assembled.tokens := by
  have hattributes : ∀ attr ∈ host.assembled.counterpartAttributes, attr.isInner = false := by
    intro attr hattr
    rcases List.mem_append.mp hattr with hline | hmust
    · obtain ⟨line, -, rfl⟩ := List.mem_map.mp hline
      rfl
    · rw [List.mem_singleton.mp hmust]
      rfl
  have hcounterpart := StructItem.tokens_attributed
    (show host.assembled.counterpart.attributes = [] from rfl) hattributes
  have hnone := Emission.tokens_implementation (fun attr (h : attr ∈ []) => nomatch h)
  have hderived := Emission.tokens_implementation
    (fun attr (h : attr ∈ [Attribute.ofWord "automatically_derived"]) => by
      rw [List.mem_singleton.mp h]; rfl)
  rw [Emission.items, Emission.companions, Emission.tokens]
  simp only [List.flatMap_cons, List.flatMap_nil, hnone, hderived, hcounterpart,
    Emission.defaultTokens_eq, List.append_assoc, List.nil_append, List.append_nil]
  rfl

/-! ## Items that exist -/

namespace Item

mutual

/-- The item without the disabled items inside of it. -/
def under (decision : Decision) : Item → Item
  | .inlineModule attributes head opening closing content =>
    .inlineModule attributes head opening closing (allUnder decision content)
  | item => item

/-- The items that exist, without the disabled items inside of them. -/
def allUnder (decision : Decision) : List Item → List Item
  | [] => []
  | item :: rest =>
    if decision.admits item.attributes then under decision item :: allUnder decision rest
    else allUnder decision rest

end

end Item

namespace Unfolded

mutual

/-- The items that something becomes. -/
def items : Unfolded → List Item
  | .kept item => [item]
  | .host emission => emission.items
  | .inlineModule attributes head opening closing content =>
    [.inlineModule attributes head opening closing (itemsAll content)]

/-- The items that the content of a module becomes. -/
def itemsAll : List Unfolded → List Item
  | [] => []
  | unfolded :: rest => items unfolded ++ itemsAll rest

end

mutual

/-- The items that exist. A host that does not exist leaves the given ones. -/
def left (decision : Decision) (leave : Emission → List Item) : Unfolded → List Item
  | .kept item => Item.allUnder decision [item]
  | .host emission =>
    if decision.admits emission.host.attributes then emission.items else leave emission
  | .inlineModule attributes head opening closing content =>
    if decision.admits attributes then
      [.inlineModule attributes head opening closing (leftAll decision leave content)]
    else []

/-- The items of a module that exist. -/
def leftAll (decision : Decision) (leave : Emission → List Item) : List Unfolded → List Item
  | [] => []
  | unfolded :: rest => left decision leave unfolded ++ leftAll decision leave rest

end

mutual

/-- The hosts that do not exist, though the modules that they are in do. -/
def missing (decision : Decision) : Unfolded → List Emission
  | .kept _ => []
  | .host emission => if decision.admits emission.host.attributes then [] else [emission]
  | .inlineModule attributes _ _ _ content =>
    if decision.admits attributes then missingAll decision content else []

/-- The hosts in a module that do not exist. -/
def missingAll (decision : Decision) : List Unfolded → List Emission
  | [] => []
  | unfolded :: rest => missing decision unfolded ++ missingAll decision rest

end

mutual

/-- All code is assembled for hosts. -/
def IsAssembled : Unfolded → Prop
  | .kept _ => True
  | .host emission => ∃ host : Host, emission = host.assembled
  | .inlineModule _ _ _ _ content => IsAssembledAll content

/-- All code in a module is assembled for hosts. -/
def IsAssembledAll : List Unfolded → Prop
  | [] => True
  | unfolded :: rest => IsAssembled unfolded ∧ IsAssembledAll rest

end

end Unfolded

section Conditions

variable (decision : Decision)

theorem Item.allUnder_append (first second : List Item) :
    allUnder decision (first ++ second) = allUnder decision first ++ allUnder decision second := by
  induction first with
  | nil => rfl
  | cons item rest ih =>
    rw [List.cons_append, allUnder, allUnder, ih]
    split <;> rfl

/-- A marker decides nothing. -/
theorem Decision.admits_of_takeMarker? {attributes rest : List Attribute} {marker : Attribute}
    (h : Attribute.takeMarker? attributes = some (marker, rest)) :
    decision.admits rest = decision.admits attributes := by
  induction attributes generalizing rest with
  | nil => cases h
  | cons attr others ih =>
    rw [Attribute.takeMarker?] at h
    split at h
    · next hmarker =>
      cases h
      refine (decision.admits_cons_of_not_isCondition ?_ _).symm
      by_contra hcondition
      rw [Attribute.not_isMarker_of_isCondition (by simpa using hcondition)] at hmarker
      cases hmarker
    · cases hothers : Attribute.takeMarker? others with
      | none => simp [hothers] at h
      | some taken =>
        obtain ⟨found, remaining⟩ := taken
        simp only [hothers, Option.map_some, Option.some.injEq, Prod.mk.injEq] at h
        obtain ⟨rfl, rfl⟩ := h
        have hrest := ih hothers
        rw [← List.singleton_append, decision.admits_append, hrest, ← decision.admits_append]
        rfl

theorem Decision.admits_withoutMarker (attributes : List Attribute) :
    decision.admits (Attribute.withoutMarker attributes) = decision.admits attributes := by
  unfold Attribute.withoutMarker
  split
  · next h => exact decision.admits_of_takeMarker? h
  · rfl

theorem Decision.admits_constrained (item : StructItem) :
    decision.admits item.constrained.attributes = decision.admits item.attributes := by
  unfold StructItem.constrained
  split
  · rfl
  · rw [decision.admits_append]
    exact Bool.and_true _

/-! ## What is left of emitted code -/

/-- The items beside a host have no conditions. -/
theorem Host.allUnder_companions (host : Host) :
    Item.allUnder decision host.assembled.companions = host.assembled.companions := by
  have hcounterpart : decision.admits host.assembled.counterpartAttributes = true := by
    change decision.admits (Attribute.documentationLines _ ++ [_]) = true
    rw [decision.admits_append, decision.admits_documentationLines]
    rfl
  rw [Emission.companions, Item.allUnder]
  simp only [Item.attributes, hcounterpart]
  rfl

/-- If a host does not exist, the items beside it are left. -/
theorem Host.allUnder_items (host : Host) :
    Item.allUnder decision host.assembled.items =
      if decision.admits host.assembled.host.attributes then host.assembled.items
      else host.assembled.companions := by
  rw [Emission.items, Item.allUnder, host.allUnder_companions]
  rfl

namespace Unfolded

mutual

/-- The items that something becomes are its code. -/
theorem tokens_items :
    ∀ unfolded : Unfolded, unfolded.IsAssembled →
      unfolded.items.flatMap Item.tokens = unfolded.item.tokens
  | .kept item, _ => List.flatMap_singleton ..
  | .host emission, h => by
    obtain ⟨host, rfl⟩ := h
    rw [items, host.tokens_items_assembled]
    exact (Tree.tokensAll_opaqueTokens _).symm
  | .inlineModule attributes head opening closing content, h => by
    rw [items, item, List.flatMap_singleton, Item.tokens_inlineModule, Item.tokens_inlineModule,
      tokens_itemsAll content h]

/-- So are those that the content of a module becomes. -/
theorem tokens_itemsAll :
    ∀ content : List Unfolded, IsAssembledAll content →
      (itemsAll content).flatMap Item.tokens = (itemAll content).flatMap Item.tokens
  | [], _ => rfl
  | unfolded :: rest, h => by
    rw [itemsAll, itemAll, List.flatMap_append, List.flatMap_cons, tokens_items unfolded h.1,
      tokens_itemsAll rest h.2]

end

mutual

/-- Removing disabled items from emitted code leaves the items beside a disabled host. -/
theorem allUnder_items :
    ∀ unfolded : Unfolded, unfolded.IsAssembled →
      Item.allUnder decision unfolded.items = unfolded.left decision Emission.companions
  | .kept item, _ => rfl
  | .host emission, h => by
    obtain ⟨host, rfl⟩ := h
    exact host.allUnder_items decision
  | .inlineModule attributes head opening closing content, h => by
    rw [items, left, ← allUnder_itemsAll content h, Item.allUnder]
    rfl

/-- It does so in a whole module. -/
theorem allUnder_itemsAll :
    ∀ content : List Unfolded, IsAssembledAll content →
      Item.allUnder decision (itemsAll content) = leftAll decision Emission.companions content
  | [], _ => rfl
  | unfolded :: rest, h => by
    rw [itemsAll, leftAll, Item.allUnder_append, allUnder_items unfolded h.1,
      allUnder_itemsAll rest h.2]

end

end Unfolded

/-! ## How many items are left -/

namespace Item

mutual

/-- The number of items, with those inside of modules. -/
def count : Item → Nat
  | .inlineModule _ _ _ _ content => countAll content + 1
  | _ => 1

/-- The number of items in a row, with those inside of modules. -/
def countAll : List Item → Nat
  | [] => 0
  | item :: rest => count item + countAll rest

end

theorem countAll_append (first second : List Item) :
    countAll (first ++ second) = countAll first + countAll second := by
  induction first with
  | nil => simp [countAll]
  | cons item rest ih =>
    rw [List.cons_append, countAll, countAll, ih]
    omega

end Item

namespace Unfolded

mutual

/-- Four items are left for every host that does not exist. -/
theorem count_left :
    ∀ unfolded : Unfolded, Item.countAll (unfolded.left decision Emission.companions) =
      Item.countAll (unfolded.left decision fun _ => []) + 4 * (unfolded.missing decision).length
  | .kept item => rfl
  | .host emission => by
    rw [left, left, missing]
    split <;> rfl
  | .inlineModule attributes head opening closing content => by
    have hcontent := count_leftAll content
    rw [left, left, missing]
    split
    · simp only [Item.countAll, Item.count, hcontent]
      omega
    · rfl

/-- There are four items more for every host of a module that does not exist. -/
theorem count_leftAll :
    ∀ content : List Unfolded, Item.countAll (leftAll decision Emission.companions content) =
      Item.countAll (leftAll decision (fun _ => []) content) +
        4 * (missingAll decision content).length
  | [] => rfl
  | unfolded :: rest => by
    rw [leftAll, leftAll, missingAll, Item.countAll_append, Item.countAll_append,
      List.length_append, count_left unfolded, count_leftAll rest]
    omega

end

mutual

theorem left_of_missing_eq_nil (leave : Emission → List Item) :
    ∀ unfolded : Unfolded, unfolded.missing decision = [] →
      unfolded.left decision leave = unfolded.left decision fun _ => []
  | .kept item, _ => rfl
  | .host emission, h => by
    rw [missing] at h
    split at h
    · next hadmits => rw [left, left, if_pos hadmits, if_pos hadmits]
    · cases h
  | .inlineModule attributes head opening closing content, h => by
    rw [missing] at h
    rw [left, left]
    split
    · next hadmits =>
      rw [if_pos hadmits] at h
      rw [leftAll_of_missingAll_eq_nil leave content h]
    · rfl

/-- If all hosts exist, it does not matter what a disabled one leaves. -/
theorem leftAll_of_missingAll_eq_nil (leave : Emission → List Item) :
    ∀ content : List Unfolded, missingAll decision content = [] →
      leftAll decision leave content = leftAll decision (fun _ => []) content
  | [], _ => rfl
  | unfolded :: rest, h => by
    obtain ⟨hfirst, hrest⟩ := List.append_eq_nil_iff.mp h
    rw [leftAll, leftAll, left_of_missing_eq_nil leave unfolded hfirst,
      leftAll_of_missingAll_eq_nil leave rest hrest]

end

/-- Nothing is left too much exactly if all hosts exist. -/
theorem leftAll_eq_iff (content : List Unfolded) :
    leftAll decision Emission.companions content = leftAll decision (fun _ => []) content ↔
      missingAll decision content = [] := by
  refine ⟨fun h => ?_, leftAll_of_missingAll_eq_nil decision _ content⟩
  have hcount := count_leftAll decision content
  rw [h] at hcount
  have hlength : (missingAll decision content).length = 0 := by omega
  exact List.eq_nil_of_length_eq_zero hlength

end Unfolded

/-! ## Unfoldings -/

namespace Expansion

/-- An item that is no module stays or is a host, which exists if the item does. -/
theorem unfold_leaf_cases {configuration : Configuration} {item : Item} {unfolded : Unfolded}
    (hmodule : item.isModule = false) (h : unfold configuration item = .ok unfolded) :
    unfolded = .kept item ∨ ∃ host : Host, unfolded = .host host.assembled ∧
      ∀ decision : Decision,
        decision.admits host.item.attributes = decision.admits item.attributes := by
  rw [unfold_of_isModule_eq_false hmodule] at h
  cases hmarker : Attribute.takeMarker? item.attributes with
  | none =>
    rw [hmarker] at h
    exact .inl (Except.ok.inj h).symm
  | some taken =>
    obtain ⟨marker, rest⟩ := taken
    rw [hmarker] at h
    obtain ⟨arguments, -, h⟩ := Generated.bind_eq_ok_iff.mp h
    obtain ⟨emission, hemission, h⟩ := Generated.bind_eq_ok_iff.mp h
    obtain ⟨struct, hstruct, halone⟩ := emissionOf_eq_ok_iff.mp hemission
    obtain ⟨host, hhost, hassembled⟩ := emitsAlone_iff.mp halone
    refine .inr ⟨host, ?_, fun decision => ?_⟩
    · rw [← (Host.numbered_of_ofStruct hhost).emission_eq_assembled hassembled]
      exact (Except.ok.inj h).symm
    · obtain ⟨fields, -, rfl⟩ := Host.eq_of_ofStruct hhost
      have hattributes : struct.attributes = rest := by
        cases item <;> cases hstruct
        rfl
      rw [decision.admits_constrained, ← decision.admits_of_takeMarker? hmarker, ← hattributes]
      rfl

/-- A module is unfolded if its items are. -/
theorem unfold_inlineModule_eq_ok_iff {configuration : Configuration} {attributes : List Attribute}
    {head : List Tree} {opening closing : Option Region} {content : List Item}
    {unfolded : Unfolded} :
    unfold configuration (.inlineModule attributes head opening closing content) = .ok unfolded ↔
      ∃ inner,
        innerConfiguration configuration ((Attribute.takeMarker? attributes).map (·.1)) = .ok inner ∧
          ∃ items, Host.gather (unfoldAll inner content) = .ok items ∧
            unfolded =
              .inlineModule (Attribute.withoutMarker attributes) head opening closing items := by
  unfold Expansion.unfold
  simp only [Generated.bind_eq_ok_iff, Checked.mapError_eq_ok_iff, pure, Except.pure,
    Except.ok.injEq, @eq_comm _ unfolded]

theorem isAssembled_of_unfold_leaf {configuration : Configuration} {item : Item}
    {unfolded : Unfolded} (hmodule : item.isModule = false)
    (h : unfold configuration item = .ok unfolded) : unfolded.IsAssembled := by
  rcases unfold_leaf_cases hmodule h with rfl | ⟨host, rfl, -⟩
  · trivial
  · exact ⟨host, rfl⟩

mutual

/-- All code that is emitted for an item is assembled for hosts. -/
theorem isAssembled_of_unfold {configuration : Configuration} :
    ∀ (item : Item) {unfolded : Unfolded}, unfold configuration item = .ok unfolded →
      unfolded.IsAssembled
  | .outlineModule attributes head, unfolded, h => by
    cases h
    trivial
  | .inlineModule attributes head opening closing content, unfolded, h => by
    obtain ⟨inner, -, items, hitems, rfl⟩ := unfold_inlineModule_eq_ok_iff.mp h
    exact isAssembledAll_of_unfoldAll content hitems
  | .record _, _, h => isAssembled_of_unfold_leaf rfl h
  | .enumeration _, _, h => isAssembled_of_unfold_leaf rfl h
  | .unionType _, _, h => isAssembled_of_unfold_leaf rfl h
  | .other _, _, h => isAssembled_of_unfold_leaf rfl h
  | .verbatim _, _, h => isAssembled_of_unfold_leaf rfl h

/-- So is all code that is emitted for the items of a module. -/
theorem isAssembledAll_of_unfoldAll {configuration : Configuration} :
    ∀ (items : List Item) {unfolded : List Unfolded},
      Host.gather (unfoldAll configuration items) = .ok unfolded →
        Unfolded.IsAssembledAll unfolded
  | [], unfolded, h => by
    cases h
    trivial
  | item :: rest, unfolded, h => by
    obtain ⟨first, later, hfirst, hlater, rfl⟩ := Host.gather_cons_eq_ok_iff.mp h
    exact ⟨isAssembled_of_unfold item hfirst, isAssembledAll_of_unfoldAll rest hlater⟩

end

/-- What an item becomes without its disabled parts is what it becomes, less the disabled hosts. -/
def Reduces (configuration : Configuration) (item : Item) (unfolded : Unfolded) : Prop :=
  ∃ reduced, unfold configuration (item.under decision) = .ok reduced ∧
    unfolded.left decision (fun _ => []) =
      if decision.admits item.attributes then reduced.items else []

theorem reduces_of_unfold_leaf {configuration : Configuration} {item : Item}
    {unfolded : Unfolded} (hmodule : item.isModule = false)
    (h : unfold configuration item = .ok unfolded) :
    Reduces decision configuration item unfolded := by
  have hunder : item.under decision = item := by
    cases item <;> first | rfl | cases hmodule
  refine ⟨unfolded, by rw [hunder, h], ?_⟩
  rcases unfold_leaf_cases hmodule h with rfl | ⟨host, rfl, hadmits⟩
  · simp [Unfolded.left, Unfolded.items, Item.allUnder, hunder]
  · have hhost : host.assembled.host = host.item := rfl
    rw [Unfolded.left, hhost, hadmits decision]
    rfl

mutual

/-- An item can be expanded without its disabled parts if it can be expanded at all. -/
theorem reduces_of_unfold {configuration : Configuration} :
    ∀ (item : Item) {unfolded : Unfolded}, unfold configuration item = .ok unfolded →
      Reduces decision configuration item unfolded
  | .outlineModule attributes head, unfolded, h => by
    cases h
    refine ⟨_, rfl, ?_⟩
    rw [Unfolded.left, Item.allUnder]
    simp only [Item.attributes, decision.admits_withoutMarker]
    rfl
  | .inlineModule attributes head opening closing content, unfolded, h => by
    obtain ⟨inner, hinner, items, hitems, rfl⟩ := unfold_inlineModule_eq_ok_iff.mp h
    obtain ⟨reduced, hreduced, hleft⟩ := reducesAll_of_unfoldAll content hitems
    refine ⟨_, unfold_inlineModule_eq_ok_iff.mpr ⟨inner, hinner, reduced, hreduced, rfl⟩, ?_⟩
    rw [Unfolded.left, hleft, decision.admits_withoutMarker]
    rfl
  | .record _, _, h => reduces_of_unfold_leaf decision rfl h
  | .enumeration _, _, h => reduces_of_unfold_leaf decision rfl h
  | .unionType _, _, h => reduces_of_unfold_leaf decision rfl h
  | .other _, _, h => reduces_of_unfold_leaf decision rfl h
  | .verbatim _, _, h => reduces_of_unfold_leaf decision rfl h

/-- So can the items of a module. -/
theorem reducesAll_of_unfoldAll {configuration : Configuration} :
    ∀ (items : List Item) {unfolded : List Unfolded},
      Host.gather (unfoldAll configuration items) = .ok unfolded →
        ∃ reduced, Host.gather (unfoldAll configuration (Item.allUnder decision items)) =
          .ok reduced ∧
            Unfolded.leftAll decision (fun _ => []) unfolded = Unfolded.itemsAll reduced
  | [], unfolded, h => by
    cases h
    exact ⟨[], rfl, rfl⟩
  | item :: rest, unfolded, h => by
    obtain ⟨first, later, hfirst, hlater, rfl⟩ := Host.gather_cons_eq_ok_iff.mp h
    obtain ⟨reduced, hreduced, hleft⟩ := reduces_of_unfold item hfirst
    obtain ⟨others, hothers, hleftAll⟩ := reducesAll_of_unfoldAll rest hlater
    rw [Item.allUnder, Unfolded.leftAll, hleft, hleftAll]
    split
    · exact ⟨reduced :: others,
        Host.gather_cons_eq_ok_iff.mpr ⟨reduced, others, hreduced, hothers, rfl⟩, rfl⟩
    · exact ⟨others, hothers, rfl⟩

end

end Expansion

end Conditions

/-- Conditions on hosts are not transparent. Take a module that is expanded, and a decision about
conditions. Expanding the module without its disabled items gives the items that are left of its
unfolding if a disabled host leaves nothing. Removing the disabled items behind the expansion gives
those that are left if a disabled host leaves the four items beside it. The two are the same exactly
if no marked struct is disabled, unless it is in a disabled module. -/
theorem removal_leaves_companions {base : Configuration} {arguments : MarkerArguments}
    {attributes : List Attribute} {head : List Tree} {opening closing : Option Region}
    {content : List Item} {tokens : List TokenTree}
    (h : Expansion.ofItem base arguments (.inlineModule attributes head opening closing content) =
      .ok tokens) (decision : Decision) :
    ∃ unfolded : List Unfolded,
      Host.gather (Expansion.unfoldAll (base.overriding arguments) content) =
        .ok unfolded ∧
      tokens =
        (Item.inlineModule attributes head opening closing (Unfolded.itemsAll unfolded)).tokens ∧
      Expansion.ofItem base arguments
          (.inlineModule attributes head opening closing (Item.allUnder decision content)) =
        .ok (Item.inlineModule attributes head opening closing
          (Unfolded.leftAll decision (fun _ => []) unfolded)).tokens ∧
      Item.allUnder decision (Unfolded.itemsAll unfolded) =
        Unfolded.leftAll decision Emission.companions unfolded ∧
      (Item.allUnder decision (Unfolded.itemsAll unfolded) =
          Unfolded.leftAll decision (fun _ => []) unfolded ↔
        Unfolded.missingAll decision unfolded = []) := by
  rw [Expansion.ofItem_inlineModule] at h
  obtain ⟨inner, hinner, hcontent⟩ := Generated.bind_eq_ok_iff.mp h
  obtain ⟨unfolded, hunfolded, htokens⟩ := Generated.bind_eq_ok_iff.mp hcontent
  obtain ⟨-, rfl⟩ := Expansion.moduleConfiguration_eq_ok_iff.mp (Checked.mapError_eq_ok_iff.mp hinner)
  obtain ⟨reduced, hreduced, hleft⟩ :=
    Expansion.reducesAll_of_unfoldAll decision content hunfolded
  have hassembled := Expansion.isAssembledAll_of_unfoldAll content hunfolded
  have hremoved := Unfolded.allUnder_itemsAll decision unfolded hassembled
  have hwritten (items : List Unfolded) (hitems : Unfolded.IsAssembledAll items) :
      (Item.inlineModule attributes head opening closing (Unfolded.itemAll items)).tokens =
        (Item.inlineModule attributes head opening closing (Unfolded.itemsAll items)).tokens := by
    rw [Item.tokens_inlineModule, Item.tokens_inlineModule, Unfolded.tokens_itemsAll items hitems]
  refine ⟨unfolded, hunfolded, ?_, ?_, hremoved, ?_⟩
  · rw [← hwritten unfolded hassembled]
    exact (Except.ok.inj htokens).symm
  · have hreducedAssembled := Expansion.isAssembledAll_of_unfoldAll _ hreduced
    rw [Expansion.ofItem_inlineModule, hinner, hleft, ← hwritten reduced hreducedAssembled]
    change Host.gather _ >>= _ = _
    rw [hreduced]
    rfl
  · rw [hremoved]
    exact Unfolded.leftAll_eq_iff decision unfolded

namespace Sample

/-- A module with the sample struct, which is marked and disabled. -/
def gatedModule : Item :=
  .inlineModule [] [Tree.word "mod", Tree.word "sample"] none none
    [.record { chain with attributes := [never, .ofWord Attribute.markWord] }]

/-- The module is expanded. -/
theorem exists_ofItem_gatedModule :
    ∃ tokens, Expansion.ofItem .standard .none gatedModule = .ok tokens := by
  have hsome : (Expansion.ofItem .standard .none gatedModule).toOption.isSome = true := by
    decide +kernel
  cases htokens : Expansion.ofItem .standard .none gatedModule with
  | error reason =>
    rw [htokens] at hsome
    cases hsome
  | ok tokens => exact ⟨tokens, rfl⟩

end Sample

/-- The items beside the sample struct are left, though the module without it has no items. -/
theorem companions_gatedModule : ∃ tokens unfolded,
    Expansion.ofItem .standard .none Sample.gatedModule = .ok tokens ∧
    tokens = (Item.inlineModule [] [Tree.word "mod", Tree.word "sample"] none none
      (Unfolded.itemsAll unfolded)).tokens ∧
    Item.allUnder (fun _ => false) (Unfolded.itemsAll unfolded) =
      Unfolded.leftAll (fun _ => false) Emission.companions unfolded := by
  obtain ⟨tokens, htokens⟩ := Sample.exists_ofItem_gatedModule
  obtain ⟨unfolded, -, hwritten, -, hremoved, -⟩ :=
    removal_leaves_companions htokens fun _ => false
  exact ⟨tokens, unfolded, htokens, hwritten, hremoved⟩

/-- A module whose only item is a disabled host: without it, the module has no items, and behind the
expansion four are left. -/
theorem removal_differs_gated :
    ((TokenTree.ofSource? "mod m \x7b #[cfg(any())] #[piecemeal] struct A \x7b\x7d \x7d").bind
      fun tokens => (Grammar.read (fun grammar => grammar.item) tokens).toOption.bind fun item =>
        match item with
        | .inlineModule _ _ _ _ content =>
          (Host.gather (Expansion.unfoldAll .standard content)).toOption.map fun unfolded =>
            ((Item.allUnder (fun _ => false) content).length,
              (Item.allUnder (fun _ => false) (Unfolded.itemsAll unfolded)).length)
        | _ => none) = some (0, 4) := by
  decide +kernel

end Counterpart
