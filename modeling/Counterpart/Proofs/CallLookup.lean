import Counterpart.Emission
import Mathlib.Data.List.Nodup

/-!
# How names in emitted code are looked up

Emitted code calls its own functions by name, and what a name leads to is settled by the language.
Where a type stands, a name is a generic parameter, if there is one of that name, and else whatever
is declared under it. A function in the path of a type is one that is implemented for the type,
since these come before the functions of traits. A method is searched for one way to pass its
receiver after the other: by value, borrowed, and borrowed for changes. Each time the methods of the
type come before those of traits. So a trait that gives a type a method by value hides a method of
the type that borrows.

The traits are those that are in scope everywhere and that hold for a type without implementations
of its own. What else the user brings into scope is not considered.
-/

namespace Counterpart

/-! ## Names of types -/

namespace Generics

/-- The words that name the parameters of a kind. -/
def wordsOf (kind : GenericKind) (generics : Generics) : List String :=
  (generics.parameters.filter fun parameter => parameter.kind = kind).flatMap fun parameter =>
    parameter.name.tokens.filterMap fun token => token.ident?.map (·.name)

end Generics

namespace Emission

variable (code : Emission)

/-- The functions in the implementation for a place. -/
def functionsAt : Owner → List Function
  | .counterpart => code.counterpartFunctions
  | .host => code.hostFunctions
  | .module => []

/-- The types that are declared, with the places of their functions. -/
def types : List (Owner × StructItem) := [(.host, code.host), (.counterpart, code.counterpart)]

/-- The types that a name may stand for where there are generic parameters. -/
def meanings (generics : Generics) (name : Ident) : List Owner :=
  if name.name ∈ generics.wordsOf .type then []
  else (code.types.filter fun type => type.2.ident.value.name = name.name).map (·.1)

/-- The functions of a type: those of all implementations whose head may stand for it. -/
def functionsFor (type : Owner) : List Function :=
  (code.types.filter fun place =>
    type ∈ code.meanings place.2.generics place.2.ident.value).flatMap fun place =>
      code.functionsAt place.1

end Emission

/-! ## Functions in paths, and methods -/

/-- How a method is passed its receiver. -/
inductive Passing where
  | owned
  | shared
  | exclusive
deriving DecidableEq, Repr

namespace Passing

/-- The ways to pass a receiver, in the order in which they are tried. -/
def all : List Passing := [owned, shared, exclusive]

end Passing

namespace Receiver

/-- How the receiver is passed, if there is one. -/
def passing? : Receiver → Option Passing
  | .none => Option.none
  | .owned | .ownedChanging => some .owned
  | .shared => some .shared
  | .exclusive => some .exclusive

end Receiver

/-- The methods that traits in scope everywhere give to every type: a value can be converted into
its own type, with or without the possibility to fail. -/
def preludeMethods : List (Passing × String) := [(.owned, "into"), (.owned, "try_into")]

namespace Function

/-- Whether the function is a method of the given name that is passed its receiver in this way. -/
def isMethod (passing : Passing) (name : Ident) (function : Function) : Bool :=
  function.signature.receiver.passing? = some passing && function.signature.name.name = name.name

/-- The functions that the search for a method ends at, with the ways to pass the receiver that are
left to try. If it ends at a method of a trait, it is none of the functions. -/
def searched (functions : List Function) (name : Ident) : List Passing → List Function
  | [] => []
  | passing :: later =>
    let own := functions.filter (isMethod passing name)
    if !own.isEmpty then own
    else if (passing, name.name) ∈ preludeMethods then []
    else searched functions name later

end Function

namespace Emission

variable (code : Emission)

/-- The functions of a name in the path of a type. A raw mark does not make another name. -/
def associated (type : Owner) (name : Ident) : List Function :=
  (code.functionsFor type).filter fun function => function.signature.name.name = name.name

/-- The functions that the call of a method on a type leads to. -/
def method (type : Owner) (name : Ident) : List Function :=
  Function.searched (code.functionsFor type) name Passing.all

end Emission

/-! ## Unique names -/

/-- Of things with distinct keys, one is left that has the key of a given one. -/
theorem filter_of_unique_key {α β : Type} [DecidableEq β] {key : α → β} {items : List α}
    (hunique : (items.map key).Nodup) {item : α} (hitem : item ∈ items) :
    items.filter (fun other => key other = key item) = [item] := by
  induction items with
  | nil => simp at hitem
  | cons first rest ih =>
    obtain ⟨hfresh, hrest⟩ := List.nodup_cons.mp hunique
    rcases List.mem_cons.mp hitem with rfl | hmem
    · have hnone : rest.filter (fun other => key other = key item) = [] := by
        refine List.filter_eq_nil_iff.mpr fun other hother hsame => ?_
        exact hfresh (List.mem_map.mpr ⟨other, hother, of_decide_eq_true hsame⟩)
      rw [List.filter_cons_of_pos (by simp), hnone]
    · have hother : key first ≠ key item := fun hsame =>
        hfresh (hsame ▸ List.mem_map_of_mem hmem)
      rw [List.filter_cons_of_neg (by simpa using hother), ih hrest hmem]

namespace Function

variable {functions : List Function} {function : Function} {passing : Passing}

/-- Among functions of distinct names, a method is the only one of its name. -/
theorem filter_isMethod (hunique : (functions.map (·.signature.name.name)).Nodup)
    (hfunction : function ∈ functions) (passing : Passing) :
    functions.filter (isMethod passing function.signature.name) =
      [function].filter fun own => own.signature.receiver.passing? = some passing := by
  rw [← filter_of_unique_key hunique hfunction, List.filter_filter]
  rfl

/-- Among functions of distinct names, a method is found, unless a trait has one of its name for a
way to pass the receiver that is tried before. -/
theorem searched_of_unique (hunique : (functions.map (·.signature.name.name)).Nodup)
    (hfunction : function ∈ functions)
    (hpassing : function.signature.receiver.passing? = some passing) (before later : List Passing)
    (hbefore : passing ∉ before) :
    searched functions function.signature.name (before ++ passing :: later) =
      if ∃ other ∈ before, (other, function.signature.name.name) ∈ preludeMethods then []
      else [function] := by
  induction before with
  | nil =>
    rw [List.nil_append, searched, filter_isMethod hunique hfunction]
    simp [hpassing]
  | cons first rest ih =>
    obtain ⟨hfirst, hrest⟩ := not_or.mp (mt List.mem_cons.mpr hbefore)
    have hnone : functions.filter (isMethod first function.signature.name) = [] := by
      rw [filter_isMethod hunique hfunction]
      simp [hpassing, hfirst]
    rw [List.cons_append, searched, hnone, ih hrest]
    simp only [List.isEmpty_nil, Bool.not_true, Bool.false_eq_true, if_false, List.mem_cons,
      exists_eq_or_imp]
    by_cases hhidden : (first, function.signature.name.name) ∈ preludeMethods
    · simp [hhidden]
    · simp [hhidden]

end Function

end Counterpart
