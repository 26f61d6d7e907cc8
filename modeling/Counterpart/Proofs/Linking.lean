import Counterpart.Proofs.MemberTable
import Counterpart.Run.Bench

/-!
# Calls find the functions they mean

Generated code refers to other generated functions by their names. An emission exists only if no two
functions of the counterpart share a name, so every name leads to the function that was generated
under it.
-/

namespace Counterpart

variable {α : Type}

namespace Host

/-! ## Functions by names -/

/-- A list in which nothing is repeated, nor in front of it, has no name twice. -/
theorem nodup_of_repeated_eq_nil {seen names : List Ident} (h : repeated seen names = []) :
    names.Nodup ∧ ∀ name ∈ names, name ∉ seen := by
  induction names generalizing seen with
  | nil => simp
  | cons name rest ih =>
    rw [repeated, List.append_eq_nil_iff] at h
    obtain ⟨hname, hrest⟩ := h
    obtain ⟨hnodup, hseen⟩ := ih hrest
    have hfresh : name ∉ seen := by simpa using hname
    refine ⟨List.nodup_cons.mpr ⟨fun hmem => ?_, hnodup⟩, ?_⟩
    · exact hseen name hmem List.mem_cons_self
    · intro other hother
      rcases List.mem_cons.mp hother with rfl | hmem
      · exact hfresh
      · exact fun hin => hseen other hmem (List.mem_cons_of_mem _ hin)

/-- What is gathered without complaint was there in every place. -/
theorem eq_map_of_gather_eq_ok {found : List (Generated α)} {values : List α}
    (h : gather found = .ok values) : found = values.map .ok := by
  induction found generalizing values with
  | nil =>
    cases h
    rfl
  | cons first rest ih =>
    obtain ⟨value, others, rfl, hrest, rfl⟩ := gather_cons_eq_ok_iff.mp h
    rw [ih hrest, List.map_cons]

/-- What is emitted consists of the host, the counterpart and the functions of the table's members, and
the names of the counterpart's members are distinct. -/
theorem emission_eq_of_ok {host : Host} {emission : Emission} (h : host.emission = .ok emission) :
    (Member.namesOf .counterpart host.table).Nodup ∧ ∃ found : List (Option (Owner × Function)),
      host.table.map (host.function? host.table) = found.map .ok ∧
      emission =
        { host := host.item
          counterpartAttributes := host.counterpartMember.attributes
          counterpart := host.counterpart
          counterpartFunctions := functionsOf .counterpart (found.filterMap id)
          constructor := Naming.constructor
          hostFunctions := functionsOf .host (found.filterMap id) } := by
  unfold Host.emission members provided at h
  split at h
  · change host.emissionOf host.declared = .ok emission at h
    rw [declared_eq_table] at h
    unfold emissionOf checkCollisions refuse at h
    split at h
    · next hcollisions =>
      have hnames : repeated [] (Member.namesOf .counterpart host.table) = [] := by
        simpa [collisions] using hcollisions
      change (gather (host.table.map (host.function? host.table)) >>= _) = _ at h
      cases hfound : gather (host.table.map (host.function? host.table)) with
      | error reason =>
        rw [hfound] at h
        cases h
      | ok found =>
        rw [hfound] at h
        have hfirst : host.table.findSome? (fun member =>
            member.signature.type?.map fun item => (member.attributes, item)) =
              some (host.counterpartMember.attributes, host.counterpart) := rfl
        have hconstructor : Member.find? host.table .constructor = some constructorMember := rfl
        simp only [bind, Except.bind, hfirst, hconstructor] at h
        cases h
        exact ⟨(nodup_of_repeated_eq_nil hnames).1, found, eq_map_of_gather_eq_ok hfound, rfl⟩
    · cases h
  · cases h

/-- The functions of an emission are those of the table's members, and the names of the counterpart's
members are distinct. -/
theorem parts_of_emission {host : Host} {emission : Emission} (h : host.emission = .ok emission) :
    (Member.namesOf .counterpart host.table).Nodup ∧ emission.constructor = Naming.constructor ∧
      ∃ found : List (Option (Owner × Function)),
        host.table.map (host.function? host.table) = found.map .ok ∧
        emission.counterpartFunctions = functionsOf .counterpart (found.filterMap id) ∧
        emission.hostFunctions = functionsOf .host (found.filterMap id) := by
  obtain ⟨hnames, found, hfound, rfl⟩ := emission_eq_of_ok h
  exact ⟨hnames, rfl, found, hfound, rfl, rfl⟩

/-- A member that is a function comes with its body and its place. -/
theorem function?_eq_ok {host : Host} {all : List Member} {member : Member}
    {entry : Option (Owner × Function)} (h : host.function? all member = .ok entry)
    {signature : FunctionSignature} (hsignature : member.signature = .function signature) :
    ∃ body, host.body all member = .ok body ∧
      entry = some (member.owner, ⟨member.attributes, signature, body⟩) := by
  simp only [function?, hsignature] at h
  cases hbody : host.body all member with
  | error reason =>
    rw [hbody] at h
    cases h
  | ok body =>
    rw [hbody] at h
    refine ⟨body, rfl, ?_⟩
    cases howner : member.owner <;> simp only [howner, bind, Except.bind] at h <;> cases h <;> rfl

/-- A member that is a function has a body, with which it is found among the functions for its
place. -/
theorem mem_functionsOf {host : Host} {all members : List Member}
    {found : List (Option (Owner × Function))}
    (h : members.map (host.function? all) = found.map .ok) {member : Member}
    (hmember : member ∈ members) {signature : FunctionSignature}
    (hsignature : member.signature = .function signature) :
    ∃ body, host.body all member = .ok body ∧
      ⟨member.attributes, signature, body⟩ ∈ functionsOf member.owner (found.filterMap id) := by
  have hok : host.function? all member ∈ found.map .ok := h ▸ List.mem_map_of_mem hmember
  obtain ⟨entry, hentry, heq⟩ := List.mem_map.mp hok
  obtain ⟨body, hbody, rfl⟩ := function?_eq_ok heq.symm hsignature
  refine ⟨body, hbody, List.mem_map.mpr ⟨(member.owner, _), List.mem_filter.mpr ⟨?_, by simp⟩, rfl⟩⟩
  exact List.mem_filterMap.mpr ⟨_, hentry, rfl⟩

/-- The functions for a place have names of members for that place, in the order of the table. -/
theorem names_functionsOf_sublist {host : Host} {all members : List Member} (owner : Owner)
    {found : List (Option (Owner × Function))}
    (h : members.map (host.function? all) = found.map .ok) :
    ((functionsOf owner (found.filterMap id)).map (·.signature.name)).Sublist
      (Member.namesOf owner members) := by
  induction members generalizing found with
  | nil =>
    obtain rfl : found = [] := by simpa using h.symm
    exact List.nil_sublist _
  | cons member rest ih =>
    cases found with
    | nil => simp at h
    | cons entry found =>
      rw [List.map_cons, List.map_cons, List.cons.injEq] at h
      obtain ⟨hentry, hrest⟩ := h
      have hsublist := ih hrest
      unfold Member.namesOf at hsublist ⊢
      cases hsignature : member.signature with
      | type item =>
        simp only [function?, hsignature, Except.ok.injEq] at hentry
        subst hentry
        refine List.Sublist.trans (by simpa using hsublist) ?_
        exact ((List.sublist_cons_self member rest).filter _).map _
      | function signature =>
        obtain ⟨body, -, rfl⟩ := function?_eq_ok hentry hsignature
        have hname : member.name = signature.name := by simp [Member.name, hsignature, Signature.name]
        by_cases howner : member.owner = owner
        · simpa [functionsOf, howner, hname] using hsublist
        · simpa [functionsOf, howner] using hsublist

end Host

namespace Emission

/-- Among functions of distinct names each is found by its name. -/
theorem bodyNamed?_of_mem {functions : List Function}
    (h : (functions.map (·.signature.name)).Nodup) {function : Function}
    (hmem : function ∈ functions) :
    bodyNamed? function.signature.name functions = some function.body := by
  simp [bodyNamed?, find?_of_unique_key h hmem]

end Emission

namespace Host

/-- The names of the counterpart's members: the accessors stand between the constructor and the
function that makes a host. -/
theorem namesOf_counterpart_table (host : Host) :
    Member.namesOf .counterpart host.table = Naming.constructor ::
      host.parameters.flatMap (fun parameter =>
        Accessor.all.map fun accessor => (host.accessorSignature parameter accessor).name)
      ++ [Naming.build] := by
  simp [Member.namesOf, table, List.filter_flatMap, List.map_flatMap, accessorMembers,
    accessorMember, counterpartMember, constructorMember, buildMember, intoCounterpartMember,
    intoCounterpartMemberFor, copyMember, copyMemberFor, factoryMember, factoryMemberFor,
    Member.owner, MemberKind.owner, Member.name, Signature.name, Accessor.all]

/-- The names of the host's own generated functions. -/
theorem namesOf_host_table (host : Host) :
    Member.namesOf .host host.table = [host.naming.intoCounterpart, Naming.copy, Naming.factory] := by
  simp [Member.namesOf, table, List.filter_flatMap, List.map_flatMap, accessorMembers,
    accessorMember, counterpartMember, constructorMember, buildMember, intoCounterpartMember,
    intoCounterpartMemberFor, copyMember, copyMemberFor, factoryMember, factoryMemberFor,
    Member.owner, MemberKind.owner, Member.name, Signature.name, Accessor.all]

/-- The host's own generated functions have distinct names in every style. -/
theorem namesOf_host_table_nodup (host : Host) : (Member.namesOf .host host.table).Nodup := by
  rw [namesOf_host_table]
  unfold Naming.intoCounterpart
  cases host.naming.configuration.style <;> decide

variable {host : Host} {emission : Emission}

/-- Among the functions for a place with distinct names, a member's function is found by its name. -/
theorem exists_bodyNamed {owner : Owner} (hnodup : (Member.namesOf owner host.table).Nodup)
    {found : List (Option (Owner × Function))}
    (hfound : host.table.map (host.function? host.table) = found.map .ok) {member : Member}
    (hmember : member ∈ host.table) (howner : member.owner = owner)
    {signature : FunctionSignature} (hsignature : member.signature = .function signature) :
    ∃ body, host.body host.table member = .ok body ∧
      Emission.bodyNamed? member.name (functionsOf owner (found.filterMap id)) = some body := by
  obtain ⟨body, hbody, hmem⟩ := mem_functionsOf hfound hmember hsignature
  have hdistinct := hnodup.sublist (names_functionsOf_sublist owner hfound)
  have hname : member.name = signature.name := by simp [Member.name, hsignature, Signature.name]
  rw [howner] at hmem
  refine ⟨body, hbody, ?_⟩
  rw [hname]
  exact Emission.bodyNamed?_of_mem hdistinct hmem

/-- A function of the counterpart is found by its name, with the body of its member. -/
theorem exists_counterpartBody (h : host.emission = .ok emission) {member : Member}
    (hmember : member ∈ host.table) (howner : member.owner = .counterpart)
    {signature : FunctionSignature} (hsignature : member.signature = .function signature) :
    ∃ body, host.body host.table member = .ok body ∧
      emission.counterpartBody? member.name = some body := by
  obtain ⟨hnodup, -, found, hfound, hfunctions, -⟩ := parts_of_emission h
  rw [Emission.counterpartBody?, hfunctions]
  exact exists_bodyNamed hnodup hfound hmember howner hsignature

/-- A function of the host is found by its name, with the body of its member. -/
theorem exists_hostBody (h : host.emission = .ok emission) {member : Member}
    (hmember : member ∈ host.table) (howner : member.owner = .host)
    {signature : FunctionSignature} (hsignature : member.signature = .function signature) :
    ∃ body, host.body host.table member = .ok body ∧
      emission.hostBody? member.name = some body := by
  obtain ⟨-, -, found, hfound, -, hfunctions⟩ := parts_of_emission h
  rw [Emission.hostBody?, hfunctions]
  exact exists_bodyNamed host.namesOf_host_table_nodup hfound hmember howner hsignature

/-- The parameters of a host with an emission have distinct names, whether or not they are written
as raw words. -/
theorem names_nodup_of_emission (h : host.emission = .ok emission) :
    (host.parameters.map (·.name.value.name)).Nodup := by
  have hnodup := (parts_of_emission h).1
  rw [namesOf_counterpart_table] at hnodup
  have hgetters : ((host.parameters.map (·.name.value.name)).map
      fun name => Ident.plain ("get_" ++ name ++ "")).Sublist
        (host.parameters.flatMap fun parameter =>
          Accessor.all.map fun accessor => (host.accessorSignature parameter accessor).name) := by
    induction host.parameters with
    | nil => exact List.nil_sublist _
    | cons parameter rest ih =>
      rw [List.map_cons, List.map_cons, List.flatMap_cons]
      refine List.Sublist.cons_cons _ (List.Sublist.cons _ (List.Sublist.cons _ ?_))
      exact ih
  have haccessors : (host.parameters.flatMap fun parameter =>
      Accessor.all.map fun accessor => (host.accessorSignature parameter accessor).name).Nodup :=
    (List.nodup_append.mp (List.nodup_cons.mp hnodup).2).1
  exact List.Nodup.of_map _ (haccessors.sublist hgetters)

end Host

/-! ## What calls run -/

namespace Emission

/-- The functions of an emission do what their names promise for the host. -/
structure Serves (emission : Emission) (host : Host) : Prop where
  constructor_eq : emission.constructor = Naming.constructor
  construct : emission.counterpartBody? Naming.constructor = some (.construct host.cells)
  accessor : ∀ parameter ∈ host.parameters, ∀ accessor,
    emission.counterpartBody? (host.accessorSignature parameter accessor).name =
      some (Host.accessorBody parameter accessor)
  build : emission.counterpartBody? Naming.build = some host.buildBody
  intoCounterpart : emission.hostBody? host.naming.intoCounterpart =
    some (.transfer ⟨host.counterpartType, Naming.constructor⟩
      (host.parameters.map fun parameter => Host.gated parameter
        ⟨host.naming.setter parameter.name.value, parameter.name.value⟩))
  copy : emission.hostBody? Naming.copy = some (.copy host.naming.intoCounterpart Naming.build)
  factory : emission.hostBody? Naming.factory =
    some (.create ⟨host.counterpartType, Naming.constructor⟩ Naming.build)

end Emission

namespace Host

variable {host : Host} {emission : Emission}

/-- The cells have the names of the parameters. -/
theorem names_cells (host : Host) :
    host.cells.map (·.value) = host.parameters.map (·.name.value) := by
  simp [cells, gated, Naming.backingField]

/-- The cells of a host with an emission have distinct names. -/
theorem cells_nodup_of_emission (h : host.emission = .ok emission) :
    (host.cells.map (·.value)).Nodup := by
  have hnames := names_nodup_of_emission h
  rw [names_cells]
  exact List.Nodup.of_map Ident.name (by simpa [Function.comp_def] using hnames)

/-- The function that makes a host binds the parameters one after another. -/
theorem counterpartBody?_build (h : host.emission = .ok emission) :
    emission.counterpartBody? Naming.build = some host.buildBody := by
  obtain ⟨body, hbody, hfound⟩ := exists_counterpartBody h host.buildMember_mem_table rfl rfl
  rw [← eq_of_provided_eq_ok hbody]
  exact hfound

/-- A host with an emission is served by it. -/
theorem serves_of_emission (hnumbered : host.Numbered) (h : host.emission = .ok emission) :
    emission.Serves host where
  constructor_eq := (parts_of_emission h).2.1
  construct := by
    have hmember : constructorMember ∈ host.table := by simp [table]
    obtain ⟨body, hbody, hfound⟩ := exists_counterpartBody h hmember rfl rfl
    rw [← eq_of_provided_eq_ok hbody]
    exact hfound
  accessor := by
    intro parameter hparameter accessor
    obtain ⟨body, hbody, hfound⟩ := exists_counterpartBody h
      (accessorMember_mem_table hparameter accessor) rfl rfl
    rw [body_accessorMember hnumbered hparameter accessor] at hbody
    rw [← eq_of_provided_eq_ok hbody]
    exact hfound
  build := counterpartBody?_build h
  intoCounterpart := by
    obtain ⟨body, hbody, hfound⟩ := exists_hostBody h host.intoCounterpartMember_mem_table rfl rfl
    rw [body_intoCounterpartMember hnumbered] at hbody
    rw [← eq_of_provided_eq_ok hbody]
    exact hfound
  copy := by
    have hmember : host.copyMember ∈ host.table := by simp [table]
    obtain ⟨body, hbody, hfound⟩ := exists_hostBody h hmember rfl rfl
    rw [body_copyMember hnumbered] at hbody
    cases hbody
    exact hfound
  factory := by
    have hmember : host.factoryMember ∈ host.table := by simp [table]
    obtain ⟨body, hbody, hfound⟩ := exists_hostBody h hmember rfl rfl
    rw [body_factoryMember hnumbered] at hbody
    cases hbody
    exact hfound

end Host

end Counterpart
