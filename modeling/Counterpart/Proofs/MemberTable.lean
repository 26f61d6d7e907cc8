import Counterpart.Member.Bodies
import Mathlib.Data.List.Nodup

/-!
# The table of members

The table is searched by kind, and its entries were declared one after the other, each from those
before it. The counterpart comes first, so no declaration is left out. The places of the parameters
keep the kinds of their accessors apart, so that every look-up finds the one member that it is
about. A body that is made from the table can therefore fail only in its template.
-/

namespace Counterpart

variable {α β : Type}

/-- A search by a key that no two items share finds the item that has it. -/
theorem find?_of_unique_key [DecidableEq β] {key : α → β} {items : List α}
    (hunique : (items.map key).Nodup) {item : α} (hitem : item ∈ items) :
    (items.find? fun other => key other = key item) = some item := by
  induction items with
  | nil => simp at hitem
  | cons first rest ih =>
    rw [List.map_cons, List.nodup_cons] at hunique
    rcases List.mem_cons.mp hitem with rfl | hrest
    · simp
    · have hother : key first ≠ key item := by
        intro hsame
        exact hunique.1 (hsame ▸ List.mem_map_of_mem hrest)
      rw [List.find?_cons_of_neg (by simpa using hother)]
      exact ih hunique.2 hrest

/-! ## Places of parameters -/

namespace Parameter

/-- Parameters are numbered by their places. -/
theorem index_ofFieldsFrom (start : Nat) (fields : List NamedField) :
    (ofFieldsFrom start fields).map (·.index) = List.range' start fields.length := by
  induction fields generalizing start with
  | nil => rfl
  | cons field rest ih => simp [ofFieldsFrom, ofField, ih, List.range'_succ]

end Parameter

namespace Host

/-- Every parameter of a host has its place as its index. -/
def Numbered (host : Host) : Prop :=
  host.parameters.map (·.index) = List.range host.parameters.length

/-- A host that was made from a struct has numbered parameters. -/
theorem numbered_of_ofStruct {item : StructItem} {configuration : Configuration}
    {rename : Option (Located Ident)} {host : Host}
    (h : ofStruct item configuration rename = .ok host) : host.Numbered := by
  unfold ofStruct at h
  cases hcheck : item.checkConstructor with
  | error found => simp [hcheck, bind, Except.bind] at h
  | ok done =>
    simp only [hcheck, bind, Except.bind, pure, Except.pure] at h
    split at h
    · cases h
    · split at h
      · cases h
        simp [Numbered, Parameter.ofFields, Parameter.index_ofFieldsFrom, List.range_eq_range']
      · cases h

/-- A parameter is found at its index. -/
theorem Numbered.getElem?_index {host : Host} (h : host.Numbered) {parameter : Parameter}
    (hmem : parameter ∈ host.parameters) : host.parameters[parameter.index]? = some parameter := by
  obtain ⟨place, hplace⟩ := List.mem_iff_getElem?.mp hmem
  have hindex : (host.parameters.map (·.index))[place]? = some parameter.index := by
    simp [hplace]
  rw [h, List.getElem?_range] at hindex
  · obtain rfl : place = parameter.index := by simpa using hindex
    exact hplace
  · exact (List.getElem?_eq_some_iff.mp hplace).1

/-! ## The table by declarations -/

/-- A table whose first member is a counterpart takes up what is declared beside it. -/
theorem extend_beside (host : Host) (rest : List Member) (member : Member) :
    Declaration.extend (host.counterpartMember :: rest) (.beside member) =
      host.counterpartMember :: (rest ++ [member]) := rfl

/-- A table whose first member is a counterpart takes up what is made from its declaration. -/
theorem extend_around (host : Host) (rest : List Member) (member : StructItem → Member) :
    Declaration.extend (host.counterpartMember :: rest) (.around member) =
      host.counterpartMember :: (rest ++ [member host.counterpart]) := rfl

/-- A table whose first member is a counterpart takes up all that is declared beside it. -/
theorem foldl_extend_beside (host : Host) (rest members : List Member) :
    (members.map Declaration.beside).foldl Declaration.extend (host.counterpartMember :: rest) =
      host.counterpartMember :: (rest ++ members) := by
  induction members generalizing rest with
  | nil => simp
  | cons member later ih => simp [extend_beside, ih]

/-- The counterpart is there from the start, so no declaration is left out. -/
theorem declared_eq_table (host : Host) : host.declared = host.table := by
  have haccessors : host.parameters.flatMap
      (fun parameter => (host.accessorMembers parameter).map Declaration.beside) =
        (host.parameters.flatMap host.accessorMembers).map .beside := by
    rw [List.map_flatMap]
  simp only [declared, declarations, haccessors, List.foldl_append, List.foldl_cons, List.foldl_nil,
    extend_beside, foldl_extend_beside, extend_around]
  simp [table, intoCounterpartMember, copyMember, factoryMember]

/-! ## The table by kinds -/

/-- The kinds of the members of a host with the given number of parameters, in order. -/
def kindsFor (parameters : Nat) : List MemberKind :=
  [.counterpart, .constructor]
    ++ (List.range parameters).flatMap (fun index => Accessor.all.map (MemberKind.property index))
    ++ [.build, .intoCounterpart, .copy, .factory]

/-- The members of the table are of the expected kinds. -/
theorem Numbered.kinds_table {host : Host} (h : host.Numbered) :
    host.table.map (·.kind) = kindsFor host.parameters.length := by
  rw [kindsFor, ← h]
  simp [table, List.map_flatMap, List.flatMap_map, accessorMembers, accessorMember,
    Function.comp_def, counterpartMember, constructorMember, buildMember,
    intoCounterpartMember, intoCounterpartMemberFor, copyMember, copyMemberFor, factoryMember,
    factoryMemberFor]

/-- No kind is expected twice. -/
theorem kindsFor_nodup (parameters : Nat) : (kindsFor parameters).Nodup := by
  have hindices : (List.range parameters).Nodup := List.nodup_range
  rw [kindsFor]
  generalize List.range parameters = indices at hindices
  have hproperties : (indices.flatMap
      fun index => Accessor.all.map (MemberKind.property index)).Nodup := by
    rw [List.nodup_flatMap]
    refine ⟨fun index _ => by simp [Accessor.all], ?_⟩
    refine hindices.imp fun {first second} hne => ?_
    simp [Function.onFun, Accessor.all, List.disjoint_left, hne]
  -- Of the kinds before and behind those of the accessors, none is that of an accessor.
  have hother {kind : MemberKind} (hkind : kind ∈ indices.flatMap
      fun index => Accessor.all.map (MemberKind.property index)) :
      ∃ index accessor, kind = .property index accessor := by
    obtain ⟨index, -, haccessor⟩ := List.mem_flatMap.mp hkind
    obtain ⟨accessor, -, rfl⟩ := List.mem_map.mp haccessor
    exact ⟨index, accessor, rfl⟩
  rw [List.append_assoc, List.nodup_append, List.nodup_append]
  refine ⟨by decide, ⟨hproperties, by decide, ?_⟩, ?_⟩
  · intro kind hkind last hlast
    obtain ⟨index, accessor, rfl⟩ := hother hkind
    rintro rfl
    simp at hlast
  · intro first hfirst kind hkind
    rcases List.mem_append.mp hkind with hkind | hkind
    · obtain ⟨index, accessor, rfl⟩ := hother hkind
      rintro rfl
      simp at hfirst
    · rintro rfl
      simp only [List.mem_cons, List.not_mem_nil, or_false] at hfirst
      rcases hfirst with rfl | rfl <;> simp at hkind

/-- No two members of the table have the same kind. -/
theorem Numbered.kinds_nodup {host : Host} (h : host.Numbered) :
    (host.table.map (·.kind)).Nodup := by
  rw [h.kinds_table]
  exact kindsFor_nodup _

/-- A member of the table is found by its kind. -/
theorem Numbered.find?_kind {host : Host} (h : host.Numbered) {member : Member}
    (hmem : member ∈ host.table) : Member.find? host.table member.kind = some member :=
  find?_of_unique_key h.kinds_nodup hmem

/-- A member of the table is what its kind is looked up for. -/
theorem Numbered.lookup_kind {host : Host} (h : host.Numbered) {member : Member}
    (hmem : member ∈ host.table) : host.lookup host.table member.kind = .ok member := by
  rw [lookup, h.find?_kind hmem]

/-! ## Members of the table -/

variable {host : Host}

/-- Accessors of parameters stand in the table. -/
theorem accessorMember_mem_table {parameter : Parameter} (h : parameter ∈ host.parameters)
    (accessor : Accessor) : host.accessorMember parameter accessor ∈ host.table := by
  have hall : accessor ∈ Accessor.all := by cases accessor <;> decide
  refine List.mem_append_left _ (List.mem_append_right _ (List.mem_flatMap.mpr ⟨parameter, h, ?_⟩))
  exact List.mem_map_of_mem hall

theorem buildMember_mem_table (host : Host) : host.buildMember ∈ host.table := by simp [table]

theorem intoCounterpartMember_mem_table (host : Host) : host.intoCounterpartMember ∈ host.table := by
  simp [table]

/-- The table has no members but the counterpart, its constructor, the accessors of parameters and
the functions between the two types. -/
theorem mem_table_cases {member : Member} (h : member ∈ host.table) :
    member = host.counterpartMember ∨ member = constructorMember ∨
      (∃ parameter ∈ host.parameters, ∃ accessor,
        member = host.accessorMember parameter accessor) ∨
      member = host.buildMember ∨ member = host.intoCounterpartMember ∨
        member = host.copyMember ∨ member = host.factoryMember := by
  simp only [table, List.mem_append, List.mem_cons, List.not_mem_nil, or_false] at h
  rcases h with ((rfl | rfl) | haccessor) | hlast
  · exact .inl rfl
  · exact .inr (.inl rfl)
  · obtain ⟨parameter, hparameter, hmember⟩ := List.mem_flatMap.mp haccessor
    obtain ⟨accessor, -, rfl⟩ := List.mem_map.mp hmember
    exact .inr (.inr (.inl ⟨parameter, hparameter, accessor, rfl⟩))
  · exact .inr (.inr (.inr hlast))

/-! ## Bodies from the table -/

/-- A computation that goes on under a condition has its value only from what follows. -/
theorem eq_of_provided_eq_ok {condition : Bool} {value result : α}
    (h : (do provided condition; pure value : Generated α) = .ok result) : result = value := by
  cases condition <;> cases h
  rfl

/-- Values that are all there are collected as they are. -/
theorem mapM_eq_ok_map {items : List α} {compute : α → Generated β} {value : α → β}
    (h : ∀ item ∈ items, compute item = .ok (value item)) :
    items.mapM compute = .ok (items.map value) := by
  induction items with
  | nil => rfl
  | cons first rest ih =>
    have hrest := ih fun item hitem => h item (List.mem_cons_of_mem _ hitem)
    rw [List.mapM_cons, h first List.mem_cons_self, hrest]
    rfl

/-- The call of the constructor is to the constructor of the counterpart. -/
theorem constructorCall_table (host : Host) :
    host.constructorCall host.table = .ok ⟨host.counterpartType, Naming.constructor⟩ := rfl

/-- Fields are transferred by the setters of their own parameters. -/
theorem transferOf_table (hnumbered : host.Numbered) {parameter : Parameter}
    (h : parameter ∈ host.parameters) :
    host.transferOf host.table parameter =
      .ok (gated parameter ⟨host.naming.setter parameter.name.value, parameter.name.value⟩) := by
  have hfind : Member.find? host.table (.property parameter.index .set) =
      some (host.accessorMember parameter .set) :=
    hnumbered.find?_kind (accessorMember_mem_table h .set)
  simp only [transferOf, lookup, hfind, bind, Except.bind]
  rfl

/-- The body of an accessor is found by the position of its parameter. -/
theorem body_accessorMember (hnumbered : host.Numbered) {parameter : Parameter}
    (hparameter : parameter ∈ host.parameters) (accessor : Accessor) (members : List Member) :
    host.body members (host.accessorMember parameter accessor) = (do
      provided parameter.name.value.isName
      pure (accessorBody parameter accessor)) := by
  simp only [body, accessorMember, hnumbered.getElem?_index hparameter]

/-- The fields of a host are moved by a new counterpart and the setters of their parameters. -/
theorem body_intoCounterpartMember (hnumbered : host.Numbered) :
    host.body host.table host.intoCounterpartMember = (do
      provided host.hasNames
      pure (.transfer ⟨host.counterpartType, Naming.constructor⟩
        (host.parameters.map fun parameter =>
          gated parameter ⟨host.naming.setter parameter.name.value, parameter.name.value⟩))) := by
  have hsteps := mapM_eq_ok_map fun parameter (hparameter : parameter ∈ host.parameters) =>
    transferOf_table hnumbered hparameter
  change (do
    let start ← host.constructorCall host.table
    let steps ← host.parameters.mapM (host.transferOf host.table)
    provided host.hasNames
    pure (Body.transfer start steps)) = _
  rw [constructorCall_table, hsteps]
  rfl

/-- A copy goes through the functions to the counterpart and back. -/
theorem body_copyMember (hnumbered : host.Numbered) :
    host.body host.table host.copyMember =
      .ok (.copy host.naming.intoCounterpart Naming.build) := by
  have hinto := hnumbered.lookup_kind host.intoCounterpartMember_mem_table
  have hbuild := hnumbered.lookup_kind host.buildMember_mem_table
  change (do
    let into ← host.lookup host.table host.intoCounterpartMember.kind
    let build ← host.lookup host.table host.buildMember.kind
    pure (Body.copy into.name build.name)) = _
  rw [hinto, hbuild]
  rfl

/-- A host is made through a new counterpart and the function back. -/
theorem body_factoryMember (hnumbered : host.Numbered) :
    host.body host.table host.factoryMember =
      .ok (.create ⟨host.counterpartType, Naming.constructor⟩ Naming.build) := by
  have hbuild := hnumbered.lookup_kind host.buildMember_mem_table
  change (do
    let start ← host.constructorCall host.table
    let build ← host.lookup host.table host.buildMember.kind
    pure (Body.create start build.name)) = _
  rw [constructorCall_table, hbuild]
  rfl

/-- Every look-up in the table succeeds, so the body of a member other than the counterpart depends
on nothing but its template. -/
theorem Numbered.exists_provided_body (hnumbered : host.Numbered) {member : Member}
    (hmember : member ∈ host.table) (hkind : member.kind ≠ .counterpart) :
    ∃ condition body, host.body host.table member = (do provided condition; pure body) := by
  rcases mem_table_cases hmember with
    rfl | rfl | ⟨parameter, hparameter, accessor, rfl⟩ | rfl | rfl | rfl | rfl
  · exact absurd rfl hkind
  · exact ⟨_, _, rfl⟩
  · exact ⟨_, _, body_accessorMember hnumbered hparameter accessor host.table⟩
  · exact ⟨_, _, rfl⟩
  · exact ⟨_, _, body_intoCounterpartMember hnumbered⟩
  · exact ⟨true, _, body_copyMember hnumbered⟩
  · exact ⟨true, _, body_factoryMember hnumbered⟩

end Host

end Counterpart
