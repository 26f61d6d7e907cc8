import Counterpart.Host.Basic

/-!
# Who is to blame

Every check of annotated code complains about annotated code. The one cause that blames the
expansion itself occurs in a check only behind a condition that an earlier check excludes, so it is
not among the diagnostics of a struct that is turned away, nor among those of an argument list. No
check fails without a diagnostic.
-/

namespace Counterpart

namespace Diagnostic

/-- The diagnostic is about annotated code, and not about the expansion itself. -/
def BlamesCode (diagnostic : Diagnostic) : Prop :=
  ∀ detail, diagnostic.cause ≠ .inconsistent detail

end Diagnostic

namespace Checked

variable {α β : Type}

/-- All that is wrong with a value is wrong with annotated code. -/
def BlamesCode (value : Checked α) : Prop :=
  ∀ diagnostic ∈ value.diagnostics, diagnostic.BlamesCode

/-- A value is missing only for a reason: something is wrong, and all of it with annotated code. -/
def Grounded : Checked α → Prop
  | .ok _ => True
  | .error found => found ≠ [] ∧ ∀ diagnostic ∈ found, diagnostic.BlamesCode

theorem Grounded.blamesCode {value : Checked α} (h : Grounded value) : BlamesCode value := by
  cases value with
  | error found => exact h.2
  | ok answer => exact nofun

/-! ## Checks made of checks -/

theorem grounded_ok (value : α) : Grounded (.ok value) := trivial

theorem grounded_pure (value : α) : Grounded (pure value) := trivial

theorem grounded_fail {cause : Cause} (h : ∀ detail, cause ≠ .inconsistent detail)
    (region : Option Region) : Grounded (fail cause region : Checked α) :=
  ⟨nofun, List.forall_mem_singleton.mpr h⟩

/-- A check behind another one adds its own diagnostics. -/
theorem Grounded.bind {value : Checked α} (h : Grounded value) {next : α → Checked β}
    (hnext : ∀ answer, value = .ok answer → Grounded (next answer)) :
    Grounded (value >>= next) := by
  cases value with
  | error found => exact h
  | ok answer => exact hnext answer rfl

/-- What is done with a value that passed adds no diagnostics. -/
theorem Grounded.map {value : Checked α} (h : Grounded value) (change : α → β) :
    Grounded (change <$> value) := by
  cases value with
  | error found => exact h
  | ok answer => exact grounded_ok _

/-- A check that is put in front of others adds its diagnostics to theirs. -/
theorem Grounded.append {first : Checked α} (hfirst : Grounded first) {rest : Checked (List α)}
    (hrest : Grounded rest) : Grounded (append first rest) := by
  rcases first with found | value <;> rcases rest with later | values
  · exact ⟨by simp [hfirst.1], List.forall_mem_append.mpr ⟨hfirst.2, hrest.2⟩⟩
  · exact ⟨by simp [hfirst.1], List.forall_mem_append.mpr ⟨hfirst.2, nofun⟩⟩
  · exact hrest
  · trivial

/-- Values that are checked together have the diagnostics of each. -/
theorem grounded_all {parts : List (Checked α)} (h : ∀ part ∈ parts, Grounded part) :
    Grounded (all parts) := by
  induction parts with
  | nil => exact grounded_ok []
  | cons first rest ih =>
    have hrest := ih fun part hpart => h part (List.mem_cons_of_mem _ hpart)
    exact (h first List.mem_cons_self).append hrest

end Checked

open Checked

/-! ## Argument lists -/

namespace Offer

theorem grounded_ofTokens (tokens : List TokenTree) :
    ∀ offer ∈ ofTokens tokens, Grounded offer := by
  unfold ofTokens
  split
  · next entries _ =>
    intro offer hoffer
    obtain ⟨entry, -, rfl⟩ := List.mem_map.mp hoffer
    exact grounded_ok entry
  · next fault _ =>
    intro offer hoffer
    obtain rfl := List.mem_singleton.mp hoffer
    exact grounded_fail (by nofun) fault.region

theorem grounded_sift (known : List String) {offers : List Offer}
    (h : ∀ offer ∈ offers, Grounded offer) (seen : List String) :
    ∀ item ∈ sift known seen offers, Grounded item := by
  induction offers generalizing seen with
  | nil => simp [sift]
  | cons first rest ih =>
    have hrest := ih fun offer hoffer => h offer (List.mem_cons_of_mem _ hoffer)
    have hfirst := h first List.mem_cons_self
    rcases first with found | (tokens | item) <;> unfold sift
    · exact List.forall_mem_cons.mpr ⟨hfirst, hrest seen⟩
    · exact List.forall_mem_cons.mpr ⟨grounded_fail (by nofun) _, hrest seen⟩
    · dsimp only
      split
      · exact List.forall_mem_cons.mpr ⟨grounded_fail (by nofun) _, hrest seen⟩
      · split
        · exact List.forall_mem_cons.mpr ⟨grounded_fail (by nofun) _, hrest seen⟩
        · exact List.forall_mem_cons.mpr ⟨grounded_ok _, hrest _⟩

/-- An argument list whose items are read one by one has the diagnostics of its form and those of
its items. -/
theorem grounded_read {α : Type} (known : List String) {offers : List Offer}
    (h : ∀ offer ∈ offers, Grounded offer) {read : MetaItem → Checked α}
    (hread : ∀ item, Grounded (read item)) :
    Grounded (all ((sift known [] offers).map fun item => item.bind read)) := by
  refine grounded_all fun part hpart => ?_
  obtain ⟨item, hitem, rfl⟩ := List.mem_map.mp hpart
  exact (grounded_sift known h [] item hitem).bind fun answer _ => hread answer

end Offer

namespace MetaItem

theorem grounded_rejectValue {α : Type} (value : Tree) :
    Grounded (rejectValue value : Checked α) := grounded_fail (by nofun) _

theorem grounded_rejectContent {α : Type} (content : String) (value : Tree) :
    Grounded (rejectContent content value : Checked α) := grounded_fail (by nofun) _

theorem grounded_expectValue (item : MetaItem) : Grounded (expectValue item) := by
  unfold expectValue
  split
  · exact grounded_fail (by nofun) _
  · exact grounded_ok _
  · exact (grounded_all (Offer.grounded_ofTokens _)).bind fun _ _ => grounded_fail (by nofun) _

end MetaItem

namespace Helper

open MetaItem

theorem grounded_readDefault (item : MetaItem) : Grounded (readDefault item) := by
  refine (grounded_expectValue item).bind fun value _ => ?_
  split
  · split
    · exact grounded_ok _
    · exact grounded_rejectContent _ _
  · exact grounded_ok _

theorem grounded_offers (helper : Attribute) : ∀ offer ∈ offers helper, Grounded offer := by
  unfold offers
  split
  · simp
  · exact Offer.grounded_ofTokens _
  · intro offer hoffer
    obtain rfl := List.mem_singleton.mp hoffer
    exact grounded_fail (by nofun) _

theorem grounded_default? (attributes : List Attribute) : Grounded (default? attributes) := by
  refine (Offer.grounded_read names ?_ grounded_readDefault).bind fun _ _ => grounded_pure _
  intro offer hoffer
  obtain ⟨helper, -, hoffer⟩ := List.mem_flatMap.mp hoffer
  exact grounded_offers helper offer hoffer

end Helper

namespace MarkerArguments

open MetaItem

theorem grounded_readRename (item : MetaItem) : Grounded (readRename item) := by
  refine (grounded_expectValue item).bind fun value _ => ?_
  split
  · split
    · exact grounded_ok _
    · exact grounded_rejectValue _
  · split
    · split
      · exact grounded_ok _
      · exact grounded_rejectContent _ _
    · exact grounded_rejectValue _

theorem grounded_readJavaSetters (item : MetaItem) : Grounded (readJavaSetters item) := by
  unfold readJavaSetters
  split
  · exact grounded_ok _
  · refine (grounded_expectValue item).bind fun value _ => ?_
    split
    · exact grounded_ok _
    · split
      · exact grounded_ok _
      · split
        · exact grounded_ok _
        · exact grounded_rejectContent _ _
    · exact grounded_rejectValue _

theorem grounded_readStyleList (item : MetaItem) (entries : List MetaEntry) :
    Grounded (readStyleList item entries) := by
  unfold readStyleList
  split
  · exact grounded_fail (by nofun) _
  · exact grounded_fail (by nofun) _
  · dsimp only
    split
    · exact grounded_fail (by nofun) _
    · split
      · exact grounded_ok _
      · exact grounded_fail (by nofun) _
  · exact grounded_fail (by nofun) _

theorem grounded_readStyle (item : MetaItem) : Grounded (readStyle item) := by
  unfold readStyle
  split
  · exact (grounded_all (Offer.grounded_ofTokens _)).bind fun entries _ =>
      grounded_readStyleList item entries
  · refine (grounded_expectValue item).bind fun value _ => ?_
    split
    · split
      · exact grounded_ok _
      · exact grounded_rejectContent _ _
    · exact grounded_rejectValue _

theorem grounded_readChoice (item : MetaItem) : Grounded (readChoice item) := by
  unfold readChoice
  split
  · exact (grounded_readRename item).map _
  · split
    · exact (grounded_readJavaSetters item).map _
    · exact (grounded_readStyle item).map _

/-- The argument list of a marker is at fault itself. -/
theorem grounded_ofTokens (tokens : List TokenTree) :
    Grounded (MarkerArguments.ofTokens tokens) :=
  (Offer.grounded_read names (Offer.grounded_ofTokens tokens) grounded_readChoice).bind
    fun _ _ => grounded_pure _

theorem grounded_ofMarker (marker : Attribute) : Grounded (ofMarker marker) := by
  unfold ofMarker
  split
  · exact grounded_ok _
  · exact grounded_ofTokens _
  · exact grounded_fail (by nofun) _

end MarkerArguments

/-! ## Structs -/

theorem StructItem.grounded_checkConstructor (item : StructItem) :
    Grounded item.checkConstructor := by
  unfold checkConstructor
  split
  · exact grounded_fail (by nofun) _
  · split
    · exact grounded_fail (by nofun) _
    · exact grounded_ok _

/-- A struct that passes has a primary constructor. -/
theorem StructItem.exists_primaryConstructor {item : StructItem} {passed : Unit}
    (h : item.checkConstructor = .ok passed) : ∃ fields, item.primaryConstructor? = some fields := by
  unfold checkConstructor at h
  split at h
  · cases h
  · exact ⟨_, ‹_›⟩

theorem Item.grounded_asHost (item : Item) : Grounded item.asHost := by
  unfold asHost
  split
  · exact (StructItem.grounded_checkConstructor _).bind fun _ _ => grounded_pure _
  · exact grounded_fail (by nofun) _
  · exact grounded_fail (by nofun) _
  · exact grounded_fail (by nofun) _

namespace Parameter

theorem blamesCode_judge {parameters : List Parameter} {current : Parameter}
    {occurrence : Occurrence} {diagnostic : Diagnostic}
    (h : judge parameters current occurrence = some diagnostic) : diagnostic.BlamesCode := by
  unfold judge at h
  split at h
  · cases h
    exact nofun
  · split at h
    · cases h
    · split at h
      · cases h
      · split at h
        · cases h
          exact nofun
        · split at h <;> cases h
          exact nofun

theorem blamesCode_referenceDiagnostics {parameters : List Parameter} :
    ∀ diagnostic ∈ referenceDiagnostics parameters, diagnostic.BlamesCode := by
  intro diagnostic hdiagnostic
  obtain ⟨current, -, hmem⟩ := List.mem_flatMap.mp hdiagnostic
  unfold referenceDiagnosticsOf at hmem
  split at hmem
  · cases hmem
  · obtain ⟨occurrence, -, hjudge⟩ := List.mem_filterMap.mp hmem
    exact blamesCode_judge hjudge

theorem blamesCode_helperDiagnostics {fields : List NamedField} :
    ∀ diagnostic ∈ helperDiagnostics fields, diagnostic.BlamesCode := by
  intro diagnostic hdiagnostic
  obtain ⟨field, -, hmem⟩ := List.mem_flatMap.mp hdiagnostic
  exact (Helper.grounded_default? field.attributes).blamesCode diagnostic hmem

end Parameter

/-- A struct that is turned away is at fault itself. That it has no primary constructor is found by
the first check, so the expansion need not blame itself for it later. -/
theorem Host.grounded_ofStruct (item : StructItem) (configuration : Configuration)
    (rename : Option (Located Ident)) : Grounded (ofStruct item configuration rename) := by
  refine item.grounded_checkConstructor.bind fun passed hpassed => ?_
  obtain ⟨fields, hfields⟩ := StructItem.exists_primaryConstructor hpassed
  simp only [hfields]
  split
  · exact grounded_pure _
  · next hfound =>
    refine ⟨fun hnone => hfound (by rw [hnone]; rfl), fun diagnostic hdiagnostic => ?_⟩
    rcases List.mem_append.mp hdiagnostic with hhelper | hreference
    · exact Parameter.blamesCode_helperDiagnostics diagnostic hhelper
    · exact Parameter.blamesCode_referenceDiagnostics diagnostic hreference

end Counterpart
