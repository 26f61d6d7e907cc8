import Counterpart.Proofs.CellCustody
import Counterpart.Proofs.Resolution

/-!
# Generated functions account for their values

Values come to the generated code through setters, mutable getters and defaults. They are held in
the cells of counterparts and in the fields of hosts, and move between these when a host is turned
into a counterpart or is built from one. Every generated function accounts for the values in its
care, also where it is left early or is unwound.
-/

namespace Counterpart

open Run Run.Event

variable {V ι α : Type} [DecidableEq ι] {identity : V → ι}
variable {host : Host} {emission : Emission} {evaluate : Evaluator V} {record : CellRecord V}

/-- The fields of a host record are those of the host. -/
def Host.IsHost (host : Host) (record : ValueRecord V) : Prop :=
  record.map (·.1) = host.parameters.map (·.name.value)

/-- A host that was built is one. -/
def Host.IsBuilt (host : Host) (result : BuildResult V) : Prop :=
  ∀ built, result = .ok built → host.IsHost built

namespace CellRecord

/-- The cell at the place of a name is the cell under the name. -/
theorem getElem?_of_name {names : List Ident} (hrecord : record.WellFormed names)
    (hnames : names.Nodup) {place : Nat} {name : Ident} (hname : names[place]? = some name) :
    ∃ cell, record[place]? = some (name, cell) ∧ record.value? name = cell.value? := by
  have hplace : (record.map (·.1))[place]? = some name := by rw [hrecord.names_eq, hname]
  rw [List.getElem?_map, Option.map_eq_some_iff] at hplace
  obtain ⟨⟨own, cell⟩, hentry, rfl⟩ := hplace
  refine ⟨cell, hentry, ?_⟩
  have hunique : (record.map (·.1)).Nodup := by rwa [hrecord.names_eq]
  have hfind := find?_of_unique_key hunique (List.mem_of_getElem? hentry)
  simp [value?, cell?, hfind]

/-- The contents of the first cells grow by the value of the next one. -/
theorem contents_take_succ {names : List Ident} (hrecord : record.WellFormed names)
    (hnames : names.Nodup) {place : Nat} {name : Ident} (hname : names[place]? = some name) :
    contents (record.take (place + 1)) =
      contents (record.take place) ++ (record.value? name).toList := by
  obtain ⟨cell, hentry, hvalue⟩ := getElem?_of_name hrecord hnames hname
  rw [List.take_add_one, hentry, hvalue]
  simp

/-- Where a parameter was not set, what the counterpart holds is in the cells before and behind. -/
theorem contents_around {names : List Ident} (hrecord : record.WellFormed names)
    (hnames : names.Nodup) {place : Nat} {name : Ident} (hname : names[place]? = some name)
    (hunset : record.value? name = none) :
    contents record = contents (record.take place) ++ contents (record.drop (place + 1)) := by
  have hnext := contents_take_succ hrecord hnames hname
  rw [hunset, Option.toList_none, List.append_nil] at hnext
  rw [← hnext, ← contents_append, List.take_append_drop]

end CellRecord

/-- The cell of a parameter is one of the counterpart. -/
theorem Host.mem_cells {parameter : Parameter} (h : parameter ∈ host.parameters) :
    Naming.backingField parameter.name.value ∈ host.cells.map (·.value) := by
  rw [names_cells]
  exact List.mem_map_of_mem h

/-- A new counterpart has nothing in its cells. -/
theorem Host.isCounterpart_emptyCells (host : Host) :
    host.IsCounterpart (Body.emptyCells host.cells : CellRecord V) ∧
      CellRecord.contents (Body.emptyCells host.cells : CellRecord V) = [] := by
  refine ⟨⟨?_, ?_⟩, ?_⟩
  · simp [Body.emptyCells]
  · intro entry hentry
    obtain ⟨cell, -, rfl⟩ := List.mem_map.mp hentry
    exact Cell.wellFormed_unset
  · simp [Body.emptyCells, CellRecord.contents]

/-- A constructor makes a counterpart out of nothing. -/
theorem Emission.Serves.construct_eq (hserves : emission.Serves host) :
    (emission.construct Naming.constructor : Ran V Unit (CellRecord V)) =
      ⟨.finished (Body.emptyCells host.cells), (), []⟩ := by
  rw [Emission.construct, hserves.construct]
  rfl

/-! ## Linked programs -/

/-- A program whose functions are those of its host. -/
structure Program.Linked (program : Program V) : Prop where
  emission_eq : program.host.emission = .ok program.emission
  numbered : program.host.Numbered
  serves : program.emission.Serves program.host

/-- A program that was made for a checked struct is linked. -/
theorem Program.linked_of_ofHost {item : StructItem} {configuration : Configuration}
    {rename : Option (Located Ident)} {program : Program V}
    (hhost : Host.ofStruct item configuration rename = .ok host)
    (hprogram : Program.ofHost host evaluate = .ok program) :
    program.host = host ∧ program.evaluate = evaluate ∧ program.Linked := by
  have hnumbered := Host.numbered_of_ofStruct hhost
  unfold Program.ofHost at hprogram
  cases hemission : host.emission with
  | error reason =>
    rw [hemission] at hprogram
    cases hprogram
  | ok emission =>
    rw [hemission] at hprogram
    cases hprogram
    exact ⟨rfl, rfl, hemission, hnumbered, Host.serves_of_emission hnumbered hemission⟩

namespace Program.Linked

variable {program : Program V}

/-- The name of the function of a member is the name of the member. -/
theorem functionName?_kind (hlinked : program.Linked) {member : Member}
    (hmember : member ∈ program.host.table) :
    program.functionName? member.kind = some member.name := by
  rw [functionName?, hlinked.numbered.find?_kind hmember, Option.map_some]

/-- An accessor that is found by the name of a property is that of a parameter. -/
theorem exists_parameter (hlinked : program.Linked) {field : String} {accessor : Accessor}
    {name : Ident} (h : program.accessorName? field accessor = some name) :
    ∃ parameter ∈ program.host.parameters,
      name = (program.host.accessorSignature parameter accessor).name := by
  obtain ⟨parameter, hfind, hname⟩ := Option.bind_eq_some_iff.mp h
  have hparameter : parameter ∈ program.host.parameters := List.mem_of_find?_eq_some hfind
  have hfound : program.functionName? (.property parameter.index accessor) =
      some (program.host.accessorSignature parameter accessor).name :=
    hlinked.functionName?_kind (Host.accessorMember_mem_table hparameter accessor)
  refine ⟨parameter, hparameter, ?_⟩
  rw [hfound] at hname
  exact (Option.some.inj hname).symm

end Program.Linked

/-! ## Building -/

variable [Destructible V]

variable (identity) in
/-- The defaults of a host account for the values that they work on, where they have the earlier
parameters as locals. Their result comes on top. None of them leaves the function around it with an
answer, since this would have no meaning. -/
def Host.DefaultsAccount (host : Host) (evaluate : Evaluator V) : Prop :=
  ∀ earlier parameter later, host.parameters = earlier ++ parameter :: later →
    ∀ expression, parameter.fallback = some expression →
      ∀ locals : ValueRecord V, locals.reverse.map (·.1) = earlier.map (·.name.value) →
        (evaluate (host.substitution.inTree expression) locals).Accounts identity []
          (fun _ _ => True) fun _ _ => []

/-- Resolved values come out of the first cells or from the defaults. -/
theorem Resolves.settled (hdefaults : host.DefaultsAccount identity evaluate)
    (hcells : (host.cells.map (·.value)).Nodup) (hrecord : host.IsCounterpart record)
    {earlier later : List Parameter} {resolved : ValueRecord V} {events : List (Event V)}
    (h : Resolves host.substitution evaluate record earlier resolved events)
    (hplace : host.parameters = earlier ++ later) :
    Settled identity (CellRecord.contents (record.take earlier.length)) events
      resolved.contents := by
  induction h generalizing later with
  | nothing => exact fun x => rfl
  | @set earlier resolved events parameter value hearlier hvalue ih =>
    have hparameter : host.parameters = earlier ++ parameter :: later := by simpa using hplace
    have hnext := CellRecord.contents_take_succ hrecord hcells (Host.getElem?_cells hparameter)
    have hset : record.value? (host.resolution parameter).value.cell = some value := hvalue
    rw [List.length_append, List.length_singleton, hnext, hset]
    refine ((ih hparameter).frame [value]).told ?_
    exact settled_comm _ [value]
  | @default earlier resolved events parameter expression value own hearlier hunset hdefault hvalue
      ih =>
    have hparameter : host.parameters = earlier ++ parameter :: later := by simpa using hplace
    have hnext := CellRecord.contents_take_succ hrecord hcells (Host.getElem?_cells hparameter)
    have hnone : record.value? (host.resolution parameter).value.cell = none := hunset
    rw [List.length_append, List.length_singleton, hnext, hnone]
    have hown := hdefaults earlier parameter later hparameter expression hdefault resolved
      hearlier.names
    rw [hvalue] at hown
    have hresult := (ih hparameter).append ((hown.2.frame resolved.contents).append
      (settled_received ([] ++ resolved.contents) [value]))
    rw [← List.append_assoc] at hresult
    rw [Option.toList_none, List.append_nil]
    exact hresult.told (settled_comm _ [value])

/-- A function that makes a host accounts for what is in the counterpart. -/
theorem Emission.accounts_build (hemission : host.emission = .ok emission)
    (hdefaults : host.DefaultsAccount identity evaluate) (hrecord : host.IsCounterpart record) :
    (emission.build evaluate Naming.build record).Yields identity (CellRecord.contents record)
      host.IsBuilt Body.builtContents := by
  have hcells := Host.cells_nodup_of_emission hemission
  rw [Emission.build_eq_call hemission]
  rcases exists_resolves host.substitution evaluate record host.parameters with
    ⟨resolved, events, hresolves⟩ |
    ⟨earlier, parameter, later, resolved, events, hplace, hresolves, hunset, hreason⟩
  · rw [Body.call_of_resolved hrecord hcells hresolves]
    have hsettled := hresolves.settled hdefaults hcells hrecord (List.append_nil _).symm
    have hlength : record.length = host.parameters.length := by
      simpa [Host.cells] using congrArg List.length hrecord.names_eq
    rw [← hlength, List.take_length] at hsettled
    refine ⟨?_, hsettled.told ?_⟩
    · rintro result ⟨⟩ built ⟨⟩
      exact hresolves.names
    · rw [settled_nil]
      intro x
      simp [Body.builtContents, ValueRecord.contents, tally]
  · have hsettled := hresolves.settled hdefaults hcells hrecord hplace
    have hcell := Host.getElem?_cells hplace
    have haround := CellRecord.contents_around hrecord hcells hcell hunset
    have hleft : Settled identity (CellRecord.contents record) events
        (resolved.contents ++ CellRecord.contents (record.drop (earlier.length + 1))) := by
      rw [haround]
      exact hsettled.frame _
    rcases hreason with hdefault | ⟨expression, hdefault, hvalue⟩
    · rw [Body.call_of_missing hrecord hcells hresolves hplace hunset hdefault]
      refine Ran.Accounts.after ?_ hleft
      refine (Action.accounts_drop _ ()).thenYields (fun _ => rfl) fun _ _ _ => ?_
      refine Ran.yields_finished ?_ fun x => rfl
      rintro built ⟨⟩
    · rw [Body.call_of_unfinished hrecord hcells hresolves hplace hunset hdefault hvalue]
      have hown := hdefaults earlier parameter later hplace expression hdefault resolved
        hresolves.names
      refine Ran.Accounts.after ?_ hleft
      generalize resolved.contents ++ CellRecord.contents (record.drop (earlier.length + 1)) = left
      have hunwound : ((evaluate (host.substitution.inTree expression) resolved).unwinding
          fun _ => left).Accounts identity left (fun answer _ => answer = none ∧ True)
            fun _ _ => [] := by
        refine ((hown.of_unfinished hvalue).frame left).unwinding ?_ ?_
        · intro value state hstate
          cases hstate.1
        · intro state hstate
          exact settled_comm [] left
      refine hunwound.thenYields (fun _ => rfl) fun value state hstate => ?_
      cases hstate.1

/-- An action on a counterpart that accounts for its values, with building behind it, accounts for
what was in the counterpart. -/
theorem Emission.accounts_actAndBuild (hemission : host.emission = .ok emission)
    (hdefaults : host.DefaultsAccount identity evaluate)
    {action : Action V (CellRecord V) α}
    (haction : (action record).Keeps identity (CellRecord.contents record)
      host.IsCounterpart CellRecord.contents) :
    (emission.actAndBuild evaluate Naming.build action record).Yields identity
      (CellRecord.contents record) (fun pair => host.IsBuilt pair.2)
      fun pair => Body.builtContents pair.2 := by
  rw [Emission.actAndBuild]
  refine haction.unwindingYields fun answer after hafter => ?_
  refine (Emission.accounts_build hemission hdefaults hafter).thenYields (fun _ => rfl)
    fun result state hresult => ?_
  exact Ran.yields_finished (hresult result rfl) fun x => by simp

/-! ## Using and making counterparts -/

namespace Emission.Serves

/-- A getter leaves the counterpart as it is. -/
theorem accounts_read (hserves : emission.Serves host) (hrecord : host.IsCounterpart record)
    {parameter : Parameter} (hparameter : parameter ∈ host.parameters) :
    (emission.read (host.accessorSignature parameter .get).name record).Keeps identity
      (CellRecord.contents record) host.IsCounterpart CellRecord.contents := by
  have hget (cell : Cell V) (hcell : cell.WellFormed) :
      (Cell.get (Naming.displayName parameter.name.value) cell).Keeps identity
        (cell.contents ++ []) Cell.WellFormed Cell.contents := by
    rw [List.append_nil]
    exact Cell.accounts_get hcell _
  have hread := CellRecord.accounts_onCell hrecord (Host.mem_cells hparameter) hget
  rw [Emission.read, hserves.accessor parameter hparameter .get]
  rw [List.append_nil] at hread
  exact hread

/-- A mutable getter keeps the value that it lends, or the one that is put in its place. -/
theorem accounts_lend (hserves : emission.Serves host) (hrecord : host.IsCounterpart record)
    {parameter : Parameter} (hparameter : parameter ∈ host.parameters)
    {edit : Edit V} (hedit : edit.Preserves identity) :
    (emission.lend (host.accessorSignature parameter .getMut).name edit record).Keeps identity
      (CellRecord.contents record ++ edit.brought) host.IsCounterpart CellRecord.contents := by
  rw [Emission.lend, hserves.accessor parameter hparameter .getMut]
  exact CellRecord.accounts_onCell hrecord (Host.mem_cells hparameter)
    fun cell hcell => Cell.accounts_edit hcell _ hedit

/-- A setter keeps the new value in the place of the old one. -/
theorem accounts_write (hserves : emission.Serves host) (hrecord : host.IsCounterpart record)
    {parameter : Parameter} (hparameter : parameter ∈ host.parameters) (value : V) :
    (emission.write (host.accessorSignature parameter .set).name value record).Keeps identity
      (CellRecord.contents record ++ [value]) host.IsCounterpart CellRecord.contents := by
  rw [Emission.write, hserves.accessor parameter hparameter .set]
  exact CellRecord.accounts_onCell hrecord (Host.mem_cells hparameter)
    fun cell hcell => Cell.accounts_set hcell value

/-- The fields of a host that are left go into a counterpart one after another. -/
theorem accounts_transferAll (hserves : emission.Serves host) {parameters : List Parameter}
    (hparameters : ∀ parameter ∈ parameters, parameter ∈ host.parameters)
    {receiver : ValueRecord V} (hnames : receiver.map (·.1) = parameters.map (·.name.value))
    (hrecord : host.IsCounterpart record) :
    (emission.transferAll (parameters.map fun parameter =>
        ⟨host.naming.setter parameter.name.value, parameter.name.value⟩) receiver record).Yields
      identity (receiver.contents ++ CellRecord.contents record) host.IsCounterpart
      CellRecord.contents := by
  induction parameters generalizing receiver record with
  | nil =>
    obtain rfl : receiver = [] := by simpa using hnames
    exact Ran.yields_finished hrecord fun x => by simp [ValueRecord.contents]
  | cons parameter rest ih =>
    obtain ⟨⟨name, value⟩, others, rfl⟩ : ∃ entry others, receiver = entry :: others := by
      cases receiver with
      | nil => simp at hnames
      | cons entry others => exact ⟨entry, others, rfl⟩
    rw [List.map_cons, List.map_cons, List.cons.injEq] at hnames
    obtain ⟨rfl, hrest⟩ := hnames
    have hparameter : parameter ∈ host.parameters := hparameters parameter List.mem_cons_self
    have hothers : ∀ other ∈ rest, other ∈ host.parameters :=
      fun other hother => hparameters other (List.mem_cons_of_mem _ hother)
    have hvalue : ValueRecord.value? parameter.name.value
        ((parameter.name.value, value) :: others) = some value := by
      simp [ValueRecord.value?]
    have hwithout : ValueRecord.without parameter.name.value
        ((parameter.name.value, value) :: others) = others := by
      simp [ValueRecord.without]
    have hwrite : (emission.write (host.naming.setter parameter.name.value) value record).Keeps
        identity (CellRecord.contents record ++ [value] ++ ValueRecord.contents others)
        host.IsCounterpart
        fun after => CellRecord.contents after ++ ValueRecord.contents others :=
      (hserves.accounts_write hrecord hparameter value).frame (ValueRecord.contents others)
    rw [List.map_cons, Emission.transferAll, hvalue, hwithout]
    refine (hwrite.unwindingYields fun answer after hafter => ?_).of_held ?_
    · exact (ih hothers hrest hafter).of_held (settled_comm _ _)
    · rw [settled_nil]
      intro x
      have hcons := tally_cons identity x value (ValueRecord.contents others)
      simp only [ValueRecord.contents, List.map_cons, tally_append] at hcons ⊢
      omega

/-- Turning a host into a counterpart moves its fields into the cells. -/
theorem accounts_intoCounterpart (hserves : emission.Serves host) {receiver : ValueRecord V}
    (hreceiver : host.IsHost receiver) :
    (emission.intoCounterpart host.naming.intoCounterpart receiver).Yields identity
      receiver.contents host.IsCounterpart CellRecord.contents := by
  obtain ⟨hempty, hcontents⟩ := host.isCounterpart_emptyCells (V := V)
  have hinto : emission.intoCounterpart host.naming.intoCounterpart receiver =
      emission.transferAll (host.parameters.map fun parameter =>
        ⟨host.naming.setter parameter.name.value, parameter.name.value⟩) receiver
          (Body.emptyCells host.cells) := by
    rw [Emission.intoCounterpart, hserves.intoCounterpart]
    simp only [hserves.construct_eq, Ran.andThen_finished, Ran.after_nil, List.map_map]
    rfl
  rw [hinto]
  refine (hserves.accounts_transferAll (fun _ h => h) hreceiver hempty).of_held ?_
  rw [hcontents, List.append_nil]
  exact fun x => rfl

variable {action : Action V (CellRecord V) α}

/-- Changing a host through its counterpart accounts for the fields of the host. -/
theorem accounts_copy (hserves : emission.Serves host) (hemission : host.emission = .ok emission)
    (hdefaults : host.DefaultsAccount identity evaluate) {receiver : ValueRecord V}
    (hreceiver : host.IsHost receiver)
    (haction : ∀ record, host.IsCounterpart record →
      (action record).Keeps identity (CellRecord.contents record)
        host.IsCounterpart CellRecord.contents) :
    (emission.copy evaluate Naming.copy action receiver).Yields identity receiver.contents
      (fun pair => host.IsBuilt pair.2) fun pair => Body.builtContents pair.2 := by
  rw [Emission.copy, hserves.copy]
  refine (hserves.accounts_intoCounterpart hreceiver).thenYields (fun _ => rfl)
    fun record state hrecord => ?_
  have hvalid := hrecord record rfl
  refine (Emission.accounts_actAndBuild hemission hdefaults (haction record hvalid)).of_held ?_
  exact fun x => by simp

/-- Making a host through its counterpart starts with nothing. -/
theorem accounts_create (hserves : emission.Serves host)
    (hemission : host.emission = .ok emission)
    (hdefaults : host.DefaultsAccount identity evaluate)
    (haction : ∀ record, host.IsCounterpart record →
      (action record).Keeps identity (CellRecord.contents record)
        host.IsCounterpart CellRecord.contents) :
    (emission.create evaluate Naming.factory action).Yields identity []
      (fun pair => host.IsBuilt pair.2) fun pair => Body.builtContents pair.2 := by
  obtain ⟨hempty, hcontents⟩ := host.isCounterpart_emptyCells (V := V)
  have hact := Emission.accounts_actAndBuild hemission hdefaults (haction _ hempty)
  rw [hcontents] at hact
  have hcreate : emission.create evaluate Naming.factory action =
      emission.actAndBuild evaluate Naming.build action (Body.emptyCells host.cells) := by
    rw [Emission.create, hserves.factory]
    simp only [hserves.construct_eq, Ran.andThen_finished, Ran.after_nil]
  rw [hcreate]
  exact hact

end Emission.Serves

/-! ## Uses of properties -/

/-- A use of a property leaves the identity of a value alone that it changes in place. -/
def Access.Preserves (identity : V → ι) : Access V → Prop
  | .edit _ change => change.Preserves identity
  | _ => True

namespace Program.Linked

variable {program : Program V}

/-- A use of a property accounts for what is in the counterpart. -/
theorem accounts_access (hlinked : program.Linked) (hrecord : program.host.IsCounterpart record)
    {access : Access V} (haccess : access.Preserves identity) :
    (program.access access record).Keeps identity (CellRecord.contents record)
      program.host.IsCounterpart CellRecord.contents := by
  have hnothing (reply : Reply V) :
      (⟨.finished reply, record, []⟩ : Ran V (CellRecord V) (Reply V)).Keeps identity
        (CellRecord.contents record) program.host.IsCounterpart CellRecord.contents :=
    Ran.accounts_finished hrecord fun x => rfl
  cases access with
  | set field value =>
    rw [Program.access]
    cases hsetter : program.accessorName? field .set with
    | none => exact hnothing .noField
    | some setter =>
      obtain ⟨parameter, hparameter, rfl⟩ := hlinked.exists_parameter hsetter
      refine Ran.Accounts.after ?_ (settled_received _ [value])
      exact (hlinked.serves.accounts_write hrecord hparameter value).answer fun _ => Reply.done
  | get field =>
    rw [Program.access]
    cases hgetter : program.accessorName? field .get with
    | none => exact hnothing .noField
    | some getter =>
      obtain ⟨parameter, hparameter, rfl⟩ := hlinked.exists_parameter hgetter
      exact (hlinked.serves.accounts_read hrecord hparameter).answer replyOf
  | edit field edit =>
    rw [Program.access]
    cases hgetter : program.accessorName? field .getMut with
    | none => exact hnothing .noField
    | some getter =>
      obtain ⟨parameter, hparameter, rfl⟩ := hlinked.exists_parameter hgetter
      have hlend := hlinked.serves.accounts_lend hrecord hparameter haccess
      exact (hlend.answer replyOf).after (settled_received _ edit.brought)
  | panic => exact ⟨hrecord, fun x => rfl⟩

/-- Uses of properties in turn account for what is in the counterpart. -/
theorem accounts_accessAll (hlinked : program.Linked) {accesses : List (Access V)}
    (haccesses : ∀ access ∈ accesses, access.Preserves identity)
    (hrecord : program.host.IsCounterpart record) :
    (program.accessAll accesses record).Keeps identity (CellRecord.contents record)
      program.host.IsCounterpart CellRecord.contents := by
  induction accesses generalizing record with
  | nil => exact Ran.accounts_finished hrecord fun x => rfl
  | cons first rest ih =>
    have hfirst := hlinked.accounts_access hrecord (haccesses first List.mem_cons_self)
    refine hfirst.next fun reply after hafter => ?_
    have hothers : ∀ access ∈ rest, access.Preserves identity :=
      fun access haccess => haccesses access (List.mem_cons_of_mem _ haccess)
    have hrest := ih hothers hafter
    exact hrest.answer fun replies => reply :: replies

end Program.Linked

end Counterpart
