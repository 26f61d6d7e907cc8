import Counterpart.Proofs.FunctionCustody

/-!
# Counterparts as stores

Between the functions that make and use it, a counterpart is a store: each property has a value or
none, a setter and a mutable getter write to one property, and nothing else changes. What a property
holds after any calls is what was written to it last.

Destructors may panic elsewhere. Here they do not for the values that the calls replace, which is
said by a set of values that the calls do not leave.
-/

namespace Counterpart

open Run

variable {V α : Type}

/-! ## What is written -/

/-- The value that an edit leaves in the place of another one. -/
def Edit.applied : Edit V → V → V
  | .change next, former => next former
  | .replace value, _ => value

namespace Access

/-- What a use of a property writes to the property of the given name, which holds a value or none.
A mutable getter writes only where there is a value. -/
def written? (field : String) (held : Option V) : Access V → Option V
  | .set own value => if own = field then some value else none
  | .edit own change => if own = field then held.map change.applied else none
  | .get _ => none
  | .panic => none

/-- What uses of properties write to the property of the given name, one after another. -/
def writes (field : String) : (held : Option V) → List (Access V) → List V
  | _, [] => []
  | held, first :: rest =>
    match first.written? field held with
    | some value => value :: writes field (some value) rest
    | none => writes field held rest

/-- What properties hold after a use of one of them. -/
def after (access : Access V) (held : String → Option V) : String → Option V :=
  fun field => (access.written? field (held field)).or (held field)

/-- What properties hold after uses: the last value that was written, or the one from before. -/
def afterAll (accesses : List (Access V)) (held : String → Option V) : String → Option V :=
  fun field => (writes field (held field) accesses).getLast?.or (held field)

/-- The use is a call of a generated function that keeps to a set of values: what it brings along is
one of them, and a change in place leads from one of them to another. -/
def KeepsTo (values : V → Prop) : Access V → Prop
  | .set _ value => values value
  | .get _ => True
  | .edit _ (.replace value) => values value
  | .edit _ (.change next) => ∀ value, values value → values (next value)
  | .panic => False

@[simp] theorem afterAll_nil (held : String → Option V) : afterAll [] held = held := by
  funext field
  rfl

/-- What is held after uses is held after the others behind the first. -/
theorem afterAll_cons (first : Access V) (rest : List (Access V)) (held : String → Option V) :
    afterAll (first :: rest) held = afterAll rest (first.after held) := by
  funext field
  simp only [afterAll, after, writes]
  cases first.written? field (held field) with
  | none => rfl
  | some value =>
    rw [Option.some_or, List.getLast?_cons]
    cases (writes field (some value) rest).getLast? <;> rfl

@[simp] theorem after_set (field : String) (value : V) (held : String → Option V) :
    (Access.set field value).after held = Function.update held field (some value) := by
  funext other
  by_cases h : field = other
  · subst h
    simp [after, written?]
  · simp [after, written?, h, Function.update_of_ne (Ne.symm h)]

@[simp] theorem after_get (field : String) (held : String → Option V) :
    (Access.get field : Access V).after held = held := rfl

@[simp] theorem after_edit (field : String) (change : Edit V) (held : String → Option V) :
    (Access.edit field change).after held =
      Function.update held field ((held field).map change.applied) := by
  funext other
  by_cases h : field = other
  · subst h
    cases hheld : held field <;> simp [after, written?, hheld]
  · simp [after, written?, h, Function.update_of_ne (Ne.symm h)]

/-- Uses that keep to a set of values leave only such values in properties. -/
theorem KeepsTo.after {values : V → Prop} {access : Access V} (haccess : access.KeepsTo values)
    {held : String → Option V} (hheld : ∀ field value, held field = some value → values value) :
    ∀ field value, access.after held field = some value → values value := by
  intro field value hafter
  cases access with
  | set own new =>
    rw [after_set] at hafter
    by_cases h : field = own
    · subst h
      rw [Function.update_self, Option.some.injEq] at hafter
      exact hafter ▸ haccess
    · rw [Function.update_of_ne h] at hafter
      exact hheld field value hafter
  | get own => exact hheld field value hafter
  | edit own change =>
    rw [after_edit] at hafter
    by_cases h : field = own
    · subst h
      rw [Function.update_self, Option.map_eq_some_iff] at hafter
      obtain ⟨former, hformer, rfl⟩ := hafter
      cases change with
      | change next => exact haccess former (hheld field former hformer)
      | replace new => exact haccess
    · rw [Function.update_of_ne h] at hafter
      exact hheld field value hafter
  | panic => exact hheld field value hafter

theorem afterAll_keeps {values : V → Prop} {accesses : List (Access V)}
    (haccesses : ∀ access ∈ accesses, access.KeepsTo values) {held : String → Option V}
    (hheld : ∀ field value, held field = some value → values value) :
    ∀ field value, afterAll accesses held field = some value → values value := by
  induction accesses generalizing held with
  | nil => exact hheld
  | cons first rest ih =>
    rw [afterAll_cons]
    exact ih (fun access hmem => haccesses access (List.mem_cons_of_mem _ hmem))
      ((haccesses first List.mem_cons_self).after hheld)

/-- Among properties that held nothing, those have a value that were set. -/
theorem isSome_getLast?_writes (field : String) (accesses : List (Access V)) :
    (writes field none accesses).getLast?.isSome ↔ ∃ value, .set field value ∈ accesses := by
  rw [List.getLast?_isSome]
  induction accesses with
  | nil => simp [writes]
  | cons first rest ih =>
    cases first with
    | set own value =>
      by_cases h : own = field
      · simp [writes, written?, h]
      · simp [writes, written?, h, ih, Ne.symm h]
    | get own => simpa [writes, written?] using ih
    | edit own change => simpa [writes, written?] using ih
    | panic => simpa [writes, written?] using ih

end Access

/-! ## Cells as a store -/

/-- What reading the property of the given name answers. -/
def readout (shown : String) : Option V → Except MissingProperty V
  | some value => .ok value
  | none => .error ⟨shown⟩

namespace Cell

theorem get_ofOption (shown : String) (held : Option V) :
    get shown (ofOption held) = ⟨.finished (readout shown held), ofOption held, []⟩ := by
  cases held <;> rfl

variable [Destructible V] {held : Option V}

/-- Setting drops the former value. -/
theorem set_ofOption (hheld : ∀ former, held = some former → Destructible.panics former = false)
    (value : V) :
    set value (ofOption held) =
      ⟨.finished (), ofOption (some value), held.toList.map .dropped⟩ := by
  cases held with
  | none => rfl
  | some former =>
    have hformer : ∀ value ∈ [former], Destructible.panics value = false := by
      simpa using hheld former rfl
    have hdrop := Action.drop_of_calm hformer (⟨false, .stale former⟩ : Cell V)
    simp [set, clear, ofOption, ofValue, hdrop]

/-- Editing changes a value that is there, and drops what it does not keep. -/
theorem edit_ofOption (hheld : ∀ former, held = some former → Destructible.panics former = false)
    {edit : Edit V} (hedit : ∀ value ∈ edit.brought, Destructible.panics value = false)
    (shown : String) :
    ∃ events, Cell.edit shown edit (ofOption held) =
      ⟨.finished (readout shown (held.map edit.applied)), ofOption (held.map edit.applied),
        events⟩ := by
  cases edit with
  | change next =>
    cases held with
    | none => exact ⟨[], rfl⟩
    | some former => exact ⟨[], rfl⟩
  | replace value =>
    cases held with
    | none =>
      have hvalue : ∀ other ∈ [value], Destructible.panics other = false := hedit
      have hdrop := Action.drop_of_calm hvalue (unset : Cell V)
      refine ⟨[.dropped value], ?_⟩
      rw [Cell.edit, ofOption, overwrite_of_unset rfl, hdrop]
      rfl
    | some former =>
      have hformer : ∀ other ∈ [former], Destructible.panics other = false := by
        simpa using hheld former rfl
      have hdrop := Action.drop_of_calm hformer (ofValue value)
      refine ⟨[.dropped former], ?_⟩
      simp [Cell.edit, overwrite, ofOption, ofValue] at hdrop ⊢
      simp [hdrop, Edit.applied, readout]

end Cell

namespace CellRecord

/-- Cells under the given names with the given values, which go by the names that users are shown. -/
def holding (names : List Ident) (held : String → Option V) : CellRecord V :=
  names.map fun name => (name, .ofOption (held (Naming.displayName name)))

theorem wellFormed_holding (names : List Ident) (held : String → Option V) :
    (holding names held).WellFormed names where
  names_eq := by simp [holding, Function.comp_def]
  cells := by
    intro entry hentry
    obtain ⟨name, -, rfl⟩ := List.mem_map.mp hentry
    exact Cell.wellFormed_ofOption _

/-- Only the values under the names of the cells matter. -/
theorem holding_congr {names : List Ident} {held other : String → Option V}
    (h : ∀ name ∈ names, held (Naming.displayName name) = other (Naming.displayName name)) :
    holding names held = holding names other :=
  List.map_congr_left fun name hname => by rw [h name hname]

theorem value?_holding {names : List Ident} (held : String → Option V) {name : Ident}
    (hname : name ∈ names) : (holding names held).value? name = held (Naming.displayName name) := by
  induction names with
  | nil => simp at hname
  | cons own rest ih =>
    change value? name ((own, _) :: holding rest held) = _
    by_cases hown : own = name
    · rw [hown, value?_cons_self, Cell.value?_ofOption]
    · rw [value?_cons_of_ne hown]
      exact ih ((List.mem_cons.mp hname).resolve_left (Ne.symm hown))

/-- Work on one cell changes what that cell holds and nothing else. -/
theorem onCell_holding {names : List Ident} (hnames : (names.map Naming.displayName).Nodup)
    {held : String → Option V} {name : Ident} (hname : name ∈ names)
    {action : Action V (Cell V) α} {outcome : Outcome α} {new : Option V} {events : List (Event V)}
    (h : action (.ofOption (held (Naming.displayName name))) = ⟨outcome, .ofOption new, events⟩) :
    onCell name action (holding names held) =
      ⟨outcome, holding names (Function.update held (Naming.displayName name) new), events⟩ := by
  induction names with
  | nil => simp at hname
  | cons own rest ih =>
    rw [List.map_cons, List.nodup_cons] at hnames
    change onCell name action ((own, _) :: holding rest held) =
      ⟨outcome, (own, _) :: holding rest _, events⟩
    by_cases hown : own = name
    · subst hown
      have hrest : holding rest held =
          holding rest (Function.update held (Naming.displayName own) new) := by
        refine holding_congr fun other hother => ?_
        have hshown : Naming.displayName other ≠ Naming.displayName own :=
          fun hsame => hnames.1 (hsame ▸ List.mem_map_of_mem hother)
        rw [Function.update_of_ne hshown]
      rw [onCell_cons_self, h, Ran.withState_mk, Function.update_self, hrest]
    · have hmem : name ∈ rest := (List.mem_cons.mp hname).resolve_left (Ne.symm hown)
      have hshown : Naming.displayName own ≠ Naming.displayName name :=
        fun hsame => hnames.1 (hsame ▸ List.mem_map_of_mem hmem)
      rw [onCell_cons_of_ne hown, ih hnames.2 hmem, Ran.withState_mk,
        Function.update_of_ne hshown]

end CellRecord

namespace Host

/-- The counterpart of a host whose properties hold the given values. -/
def holding (host : Host) (held : String → Option V) : CellRecord V :=
  CellRecord.holding (host.parameters.map (·.name.value)) held

variable {host : Host}

/-- A new counterpart holds nothing. -/
theorem emptyCells_eq_holding (host : Host) :
    (Body.emptyCells host.cells : CellRecord V) = host.holding fun _ => none := by
  simp [Body.emptyCells, cells, gated, holding, CellRecord.holding, Naming.backingField,
    Cell.ofOption]

theorem isCounterpart_holding (host : Host) (held : String → Option V) :
    host.IsCounterpart (host.holding held) := by
  rw [IsCounterpart, names_cells]
  exact CellRecord.wellFormed_holding _ held

theorem value?_holding {parameter : Parameter} (h : parameter ∈ host.parameters)
    (held : String → Option V) :
    (host.holding held).value? parameter.name.value =
      held (Naming.displayName parameter.name.value) :=
  CellRecord.value?_holding held (List.mem_map_of_mem h)

/-- The names of properties are told apart by what users are shown. -/
theorem displayNames_nodup {emission : Emission} (h : host.emission = .ok emission) :
    ((host.parameters.map (·.name.value)).map Naming.displayName).Nodup := by
  rw [List.map_map]
  exact names_nodup_of_emission h

end Host

namespace ValueRecord

/-- The value of the field of the given name, as users are shown it. -/
def shown? (field : String) (record : ValueRecord V) : Option V :=
  (record.find? fun entry => Naming.displayName entry.1 = field).map (·.2)

/-- The fields of the given names that have a value. -/
def holding (names : List Ident) (held : String → Option V) : ValueRecord V :=
  names.filterMap fun name => (held (Naming.displayName name)).map fun value => (name, value)

/-- A field of a record without two names that look alike is found by what users are shown. -/
theorem shown?_of_mem {record : ValueRecord V}
    (h : (record.map fun entry => Naming.displayName entry.1).Nodup) {entry : Ident × V}
    (hentry : entry ∈ record) : record.shown? (Naming.displayName entry.1) = some entry.2 := by
  have hfind : (record.find? fun other =>
      Naming.displayName other.1 = Naming.displayName entry.1) = some entry :=
    find?_of_unique_key h hentry
  rw [shown?, hfind, Option.map_some]

theorem value?_of_mem {record : ValueRecord V} (h : (record.map (·.1)).Nodup) {entry : Ident × V}
    (hentry : entry ∈ record) : record.value? entry.1 = some entry.2 := by
  have hfind : (record.find? fun other => other.1 = entry.1) = some entry :=
    find?_of_unique_key h hentry
  rw [value?, hfind, Option.map_some]

/-- A field in front of others of other names is one more value that is held. -/
theorem shown?_or_update {name : Ident} {others : ValueRecord V}
    (h : ∀ entry ∈ others, Naming.displayName entry.1 ≠ Naming.displayName name) (value : V)
    (held : String → Option V) :
    (fun field => (others.shown? field).or
        (Function.update held (Naming.displayName name) (some value) field)) =
      fun field => (ValueRecord.shown? field ((name, value) :: others)).or (held field) := by
  funext field
  by_cases hfield : Naming.displayName name = field
  · subst hfield
    have hmissing : others.shown? (Naming.displayName name) = none := by
      rw [shown?, Option.map_eq_none_iff, List.find?_eq_none]
      exact fun entry hentry hsame => h entry hentry (of_decide_eq_true hsame)
    rw [hmissing, Function.update_self]
    simp [shown?]
  · rw [Function.update_of_ne (Ne.symm hfield)]
    simp [shown?, hfield]

/-- A record is made of what its fields hold. -/
theorem holding_shown? {record : ValueRecord V}
    (h : (record.map fun entry => Naming.displayName entry.1).Nodup) :
    holding (record.map (·.1)) (record.shown? ·) = record := by
  have hentries : ∀ entry ∈ record,
      ((record.shown? (Naming.displayName entry.1)).map fun value => (entry.1, value)) =
        some entry := by
    intro entry hentry
    rw [shown?_of_mem h hentry, Option.map_some]
  rw [holding, List.filterMap_map]
  exact (List.filterMap_congr hentries).trans List.filterMap_some

/-- Where every field has a value, they all stand in the record. -/
theorem names_holding {names : List Ident} {held : String → Option V}
    (h : ∀ name ∈ names, (held (Naming.displayName name)).isSome) :
    (holding names held).map (·.1) = names := by
  induction names with
  | nil => rfl
  | cons name rest ih =>
    obtain ⟨value, hvalue⟩ := Option.isSome_iff_exists.mp (h name List.mem_cons_self)
    have hrest := ih fun other hother => h other (List.mem_cons_of_mem _ hother)
    rw [holding] at hrest ⊢
    simp [hvalue, hrest]

end ValueRecord

/-! ## Generated functions on the store -/

variable {host : Host} {emission : Emission} {held : String → Option V}

namespace Emission.Serves

variable (hserves : emission.Serves host) (hemission : host.emission = .ok emission)
variable {parameter : Parameter} (hparameter : parameter ∈ host.parameters)

include hserves hemission hparameter

/-- A getter answers what the property holds. -/
theorem read_holding :
    emission.read (host.accessorSignature parameter .get).name (host.holding held) =
      ⟨.finished (readout (Naming.displayName parameter.name.value)
        (held (Naming.displayName parameter.name.value))), host.holding held, []⟩ := by
  have hget := Cell.get_ofOption (Naming.displayName parameter.name.value)
    (held (Naming.displayName parameter.name.value))
  rw [Emission.read, hserves.accessor parameter hparameter .get, Host.holding]
  have hcell := CellRecord.onCell_holding (Host.displayNames_nodup hemission)
    (List.mem_map_of_mem hparameter) hget
  rwa [Function.update_eq_self] at hcell

variable [Destructible V]
variable (hheld : ∀ former, held (Naming.displayName parameter.name.value) = some former →
  Destructible.panics former = false)

include hheld

/-- A setter writes to its own property. -/
theorem write_holding (value : V) :
    emission.write (host.accessorSignature parameter .set).name value (host.holding held) =
      ⟨.finished (), host.holding
        (Function.update held (Naming.displayName parameter.name.value) (some value)),
        (held (Naming.displayName parameter.name.value)).toList.map .dropped⟩ := by
  rw [Emission.write, hserves.accessor parameter hparameter .set, Host.holding]
  exact CellRecord.onCell_holding (Host.displayNames_nodup hemission)
    (List.mem_map_of_mem hparameter) (Cell.set_ofOption hheld value)

/-- A mutable getter lends what its own property holds. -/
theorem lend_holding {edit : Edit V}
    (hedit : ∀ value ∈ edit.brought, Destructible.panics value = false) :
    ∃ events, emission.lend (host.accessorSignature parameter .getMut).name edit
        (host.holding held) =
      ⟨.finished (readout (Naming.displayName parameter.name.value)
          ((held (Naming.displayName parameter.name.value)).map edit.applied)),
        host.holding (Function.update held (Naming.displayName parameter.name.value)
          ((held (Naming.displayName parameter.name.value)).map edit.applied)), events⟩ := by
  obtain ⟨events, hcell⟩ := Cell.edit_ofOption hheld hedit
    (Naming.displayName parameter.name.value)
  refine ⟨events, ?_⟩
  rw [Emission.lend, hserves.accessor parameter hparameter .getMut, Host.holding]
  exact CellRecord.onCell_holding (Host.displayNames_nodup hemission)
    (List.mem_map_of_mem hparameter) hcell

end Emission.Serves

namespace Program.Linked

variable {program : Program V} (hlinked : program.Linked)

include hlinked

/-- A name that users are shown is that of a property with all its accessors, or of none. -/
theorem accessorName?_cases (field : String) :
    (∃ parameter ∈ program.host.parameters, Naming.displayName parameter.name.value = field ∧
      ∀ accessor, program.accessorName? field accessor =
        some (program.host.accessorSignature parameter accessor).name) ∨
    (∀ parameter ∈ program.host.parameters, Naming.displayName parameter.name.value ≠ field) ∧
      ∀ accessor, program.accessorName? field accessor = none := by
  unfold Program.accessorName?
  cases hfind : program.host.parameters.find? fun parameter =>
      Naming.displayName parameter.name.value = field with
  | none => exact .inr ⟨by simpa using List.find?_eq_none.mp hfind, fun _ => rfl⟩
  | some parameter =>
    have hparameter : parameter ∈ program.host.parameters := List.mem_of_find?_eq_some hfind
    refine .inl ⟨parameter, hparameter, by simpa using List.find?_some hfind, fun accessor => ?_⟩
    exact hlinked.functionName?_kind (Host.accessorMember_mem_table hparameter accessor)

variable [Destructible V] {calm : V → Prop}
variable (hcalm : ∀ value, calm value → Destructible.panics value = false)

include hcalm

/-- A use of a property leaves what it writes, and nothing else changes. -/
theorem access_holding {held : String → Option V}
    (hheld : ∀ field value, held field = some value → calm value) {access : Access V}
    (haccess : access.KeepsTo calm) :
    ∃ reply events, program.access access (program.host.holding held) =
      ⟨.finished reply, program.host.holding (access.after held), events⟩ := by
  have hunknown {field : String} (new : Option V)
      (hfield : ∀ parameter ∈ program.host.parameters,
        Naming.displayName parameter.name.value ≠ field) :
      program.host.holding held = program.host.holding (Function.update held field new) := by
    refine CellRecord.holding_congr fun name hname => ?_
    obtain ⟨parameter, hparameter, rfl⟩ := List.mem_map.mp hname
    rw [Function.update_of_ne (hfield parameter hparameter)]
  cases access with
  | set field value =>
    rw [Program.access, Access.after_set]
    rcases hlinked.accessorName?_cases field with
      ⟨parameter, hparameter, rfl, hname⟩ | ⟨hfield, hname⟩
    · have hwrite := hlinked.serves.write_holding hlinked.emission_eq hparameter
        (fun former hformer => hcalm former (hheld _ former hformer)) value
      rw [hname]
      simp only [Action.bind_def, Action.receive_def, Ran.andThen_finished, hwrite,
        Action.pure_def, Ran.after_mk]
      exact ⟨.done, _, rfl⟩
    · rw [hname, ← hunknown _ hfield]
      exact ⟨.noField, [], rfl⟩
  | get field =>
    rw [Program.access, Access.after_get]
    rcases hlinked.accessorName?_cases field with
      ⟨parameter, hparameter, rfl, hname⟩ | ⟨-, hname⟩
    · have hread : program.emission.read _ (program.host.holding held) = _ :=
        hlinked.serves.read_holding hlinked.emission_eq hparameter
      rw [hname]
      simp only [Action.bind_def, Ran.andThen_finished, hread, Action.pure_def, Ran.after_mk]
      exact ⟨_, _, rfl⟩
    · rw [hname]
      exact ⟨.noField, [], rfl⟩
  | edit field edit =>
    rw [Program.access, Access.after_edit]
    rcases hlinked.accessorName?_cases field with
      ⟨parameter, hparameter, rfl, hname⟩ | ⟨hfield, hname⟩
    · have hedit : ∀ value ∈ edit.brought, Destructible.panics value = false := by
        intro value hvalue
        cases edit with
        | change next => simp [Edit.brought] at hvalue
        | replace new =>
          obtain rfl : value = new := by simpa [Edit.brought] using hvalue
          exact hcalm value haccess
      obtain ⟨events, hlend⟩ := hlinked.serves.lend_holding hlinked.emission_eq hparameter
        (fun former hformer => hcalm former (hheld _ former hformer)) hedit
      rw [hname]
      simp only [Action.bind_def, Action.receive_def, Ran.andThen_finished, hlend,
        Action.pure_def, Ran.after_mk]
      exact ⟨_, _, rfl⟩
    · rw [hname, ← hunknown _ hfield]
      exact ⟨.noField, [], rfl⟩
  | panic => exact haccess.elim

/-- After uses of properties, each holds what was written to it last. -/
theorem accessAll_holding {accesses : List (Access V)}
    (haccesses : ∀ access ∈ accesses, access.KeepsTo calm) {held : String → Option V}
    (hheld : ∀ field value, held field = some value → calm value) :
    ∃ replies events, program.accessAll accesses (program.host.holding held) =
      ⟨.finished replies, program.host.holding (Access.afterAll accesses held), events⟩ := by
  induction accesses generalizing held with
  | nil => exact ⟨[], [], by rw [Access.afterAll_nil]; rfl⟩
  | cons first rest ih =>
    have hfirst := haccesses first List.mem_cons_self
    obtain ⟨reply, events, haccess⟩ := hlinked.access_holding hcalm hheld hfirst
    obtain ⟨replies, later, hrest⟩ :=
      ih (fun access hmem => haccesses access (List.mem_cons_of_mem _ hmem)) (hfirst.after hheld)
    refine ⟨reply :: replies, events ++ later, ?_⟩
    rw [Program.accessAll, Action.bind_def, haccess, Ran.andThen_finished, Action.bind_def, hrest,
      Access.afterAll_cons]
    simp

end Program.Linked

end Counterpart
