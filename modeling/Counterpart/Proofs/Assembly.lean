import Counterpart.Proofs.Linking
import Counterpart.Session

/-!
# What is emitted, part by part

An emission is put together from what the members of the table turn out to be. When nothing is wrong
there is only one outcome, which is written down here in full: every function with its signature and
its body, in order. What an emission says about a host can then be read off the host.
-/

namespace Counterpart

/-! ## Hosts from structs -/

namespace Parameter

/-- What does not depend on the place of a parameter is made from its field alone. -/
theorem map_ofFieldsFrom {β : Type} (make : Parameter → β)
    (h : ∀ index field, make (ofField index field) = make (ofField 0 field)) (start : Nat)
    (fields : List NamedField) :
    (ofFieldsFrom start fields).map make = fields.map fun field => make (ofField 0 field) := by
  induction fields generalizing start with
  | nil => rfl
  | cons field rest ih => rw [ofFieldsFrom, List.map_cons, List.map_cons, h, ih]

end Parameter

/-- A host is made from the named fields of a struct. -/
theorem Host.eq_of_ofStruct {item : StructItem} {configuration : Configuration}
    {rename : Option (Located Ident)} {host : Host}
    (h : ofStruct item configuration rename = .ok host) :
    ∃ fields, item.primaryConstructor? = some fields ∧
      host =
        { item := item.withoutHelpers.constrained
          naming := .ofHost item.ident configuration rename
          parameters := Parameter.ofFields fields
          visibility := .ofFields fields } := by
  have hcheck := checkConstructor_of_ofStruct h
  unfold ofStruct at h
  simp only [hcheck, bind, Except.bind, pure, Except.pure] at h
  split at h
  · cases h
  · next fields hfields =>
    split at h <;> cases h
    exact ⟨fields, hfields, rfl⟩

/-- What a session emits for a struct that it registered is what is emitted for its host. -/
theorem Session.exists_host_of_register {session later : Session} {item : StructItem}
    {configuration : Configuration} {rename : Option (Located Ident)} {id : Nat}
    (h : session.register item configuration rename = .ok (id, later)) :
    ∃ host, Host.ofStruct item configuration rename = .ok host ∧ later.emit id = host.emission := by
  obtain ⟨host, hhost, rfl, rfl⟩ := register_eq_ok h
  refine ⟨host, hhost, ?_⟩
  simp [emit, host?]

/-! ## Functions -/

namespace Member

/-- The function that a member is, with the given body. -/
def functionWith (member : Member) (body : Body) : Function :=
  match member.signature with
  | .function signature => ⟨member.attributes, signature, body⟩
  | .type _ => ⟨member.attributes, default, body⟩

end Member

namespace Host

/-- An accessor of a property with its body. -/
def accessorFunction (host : Host) (parameter : Parameter) (accessor : Accessor) : Function :=
  (host.accessorMember parameter accessor).functionWith (accessorBody parameter accessor)

/-- The functions of the counterpart. -/
def counterpartFunctions (host : Host) : List Function :=
  constructorMember.functionWith (.construct host.cells)
    :: host.parameters.flatMap (fun parameter => Accessor.all.map (host.accessorFunction parameter))
    ++ [host.buildMember.functionWith host.buildBody]

/-- The calls that move the fields of the host into a counterpart. -/
def transfers (host : Host) : List (Gated Transfer) :=
  host.parameters.map fun parameter =>
    gated parameter ⟨host.naming.setter parameter.name.value, parameter.name.value⟩

/-- The functions of the host. -/
def hostFunctions (host : Host) : List Function :=
  let start : ConstructorCall := ⟨host.counterpartType, Naming.constructor⟩
  [host.intoCounterpartMember.functionWith (.transfer start host.transfers),
   host.copyMember.functionWith (.copy host.naming.intoCounterpart Naming.build),
   host.factoryMember.functionWith (.create start Naming.build)]

/-- All that is emitted for a host for which nothing is wrong. -/
def assembled (host : Host) : Emission :=
  { host := host.item
    counterpartAttributes := host.counterpartMember.attributes
    counterpart := host.counterpart
    counterpartFunctions := host.counterpartFunctions
    constructor := Naming.constructor
    hostFunctions := host.hostFunctions }

/-- The functions of the counterpart have the names of its members. -/
theorem names_counterpartFunctions (host : Host) :
    host.counterpartFunctions.map (·.signature.name) = Member.namesOf .counterpart host.table := by
  rw [namesOf_counterpart_table, counterpartFunctions]
  simp only [List.cons_append, List.map_cons, List.map_append, List.map_flatMap, List.map_nil,
    List.map_map]
  rfl

/-- The members of the table, each with what it stands for among the functions. -/
def entries (host : Host) : List (Member × Option (Owner × Function)) :=
  (host.counterpartMember, none)
    :: (constructorMember, some (.counterpart, constructorMember.functionWith (.construct host.cells)))
    :: host.parameters.flatMap (fun parameter => Accessor.all.map fun accessor =>
        (host.accessorMember parameter accessor,
          some (.counterpart, host.accessorFunction parameter accessor)))
    ++ (host.buildMember, some (.counterpart, host.buildMember.functionWith host.buildBody))
    :: (([host.intoCounterpartMember, host.copyMember, host.factoryMember].zip
          host.hostFunctions).map fun (member, function) => (member, some (.host, function)))

/-- The entries are those of the members of the table, in order. -/
theorem map_fst_entries (host : Host) : host.entries.map (·.1) = host.table := by
  have haccessors : host.accessorMembers =
      fun parameter => Accessor.all.map (host.accessorMember parameter) := rfl
  simp [entries, table, haccessors, hostFunctions, List.map_flatMap, Function.comp_def]

/-- The counterpart's functions are the entries for its place. -/
theorem functionsOf_counterpart_entries (host : Host) :
    functionsOf .counterpart ((host.entries.map (·.2)).filterMap id) = host.counterpartFunctions := by
  simp [entries, functionsOf, counterpartFunctions, hostFunctions, List.map_flatMap,
    List.filterMap_flatMap, List.filter_flatMap, Accessor.all]

/-- The host's functions are the entries for its place. -/
theorem functionsOf_host_entries (host : Host) :
    functionsOf .host ((host.entries.map (·.2)).filterMap id) = host.hostFunctions := by
  simp [entries, functionsOf, hostFunctions, List.map_flatMap, List.filterMap_flatMap,
    List.filter_flatMap, Accessor.all]

variable {host : Host}

/-- A member whose only body is the given one stands for the function with that body. -/
theorem function?_eq_functionWith {all : List Member} {member : Member} {body : Body}
    {signature : FunctionSignature} (hsignature : member.signature = .function signature)
    (hbody : ∀ other, host.body all member = .ok other → other = body)
    {entry : Option (Owner × Function)} (h : host.function? all member = .ok entry) :
    entry = some (member.owner, member.functionWith body) := by
  obtain ⟨other, hother, rfl⟩ := function?_eq_ok h hsignature
  rw [hbody other hother, Member.functionWith, hsignature]

/-- Every member of the table stands for its entry. -/
theorem Numbered.function?_entries (h : host.Numbered) :
    ∀ place ∈ host.entries, ∀ entry, host.function? host.table place.1 = .ok entry →
      entry = place.2 := by
  intro place hplace entry hentry
  simp only [entries, hostFunctions, List.cons_append, List.mem_cons, List.mem_append,
    List.mem_flatMap, List.mem_map, List.zip_cons_cons, List.zip_nil_right, List.map_cons,
    List.map_nil, List.not_mem_nil, or_false] at hplace
  rcases hplace with rfl | rfl | ⟨parameter, hparameter, accessor, -, rfl⟩ | rfl | rfl | rfl | rfl
  · cases hentry
    rfl
  · refine function?_eq_functionWith rfl (fun body hbody => ?_) hentry
    exact eq_of_provided_eq_ok hbody
  · refine function?_eq_functionWith rfl (fun body hbody => ?_) hentry
    rw [body_accessorMember h hparameter accessor] at hbody
    exact eq_of_provided_eq_ok hbody
  · refine function?_eq_functionWith rfl (fun body hbody => ?_) hentry
    exact eq_of_provided_eq_ok hbody
  · refine function?_eq_functionWith rfl (fun body hbody => ?_) hentry
    rw [body_intoCounterpartMember h] at hbody
    exact eq_of_provided_eq_ok hbody
  · refine function?_eq_functionWith rfl (fun body hbody => ?_) hentry
    rw [body_copyMember h] at hbody
    exact (Except.ok.inj hbody).symm
  · refine function?_eq_functionWith rfl (fun body hbody => ?_) hentry
    rw [body_factoryMember h] at hbody
    exact (Except.ok.inj hbody).symm

/-- Values that are all there are the ones that are expected in their places. -/
theorem eq_map_of_expected {α β : Type} {compute : α → Generated β} {places : List (α × β)}
    (hplaces : ∀ place ∈ places, ∀ value, compute place.1 = .ok value → value = place.2)
    {found : List β} (h : (places.map (·.1)).map compute = found.map .ok) :
    found = places.map (·.2) := by
  induction places generalizing found with
  | nil => simpa using h.symm
  | cons place rest ih =>
    cases found with
    | nil => simp at h
    | cons value later =>
      rw [List.map_cons, List.map_cons, List.map_cons, List.cons.injEq] at h
      obtain ⟨hvalue, hlater⟩ := h
      have hfirst := hplaces place List.mem_cons_self value hvalue
      have hrest := ih (fun other hother => hplaces other (List.mem_cons_of_mem _ hother)) hlater
      rw [List.map_cons, hfirst, hrest]

/-- What is emitted for a host is nothing but what it is assembled from. -/
theorem Numbered.emission_eq_assembled (h : host.Numbered) {emission : Emission}
    (hemission : host.emission = .ok emission) : emission = host.assembled := by
  obtain ⟨-, found, hfound, rfl⟩ := emission_eq_of_ok hemission
  have hentries : found = host.entries.map (·.2) :=
    eq_map_of_expected h.function?_entries (by rw [map_fst_entries, hfound])
  rw [hentries, functionsOf_counterpart_entries, functionsOf_host_entries]
  rfl

end Host

end Counterpart
