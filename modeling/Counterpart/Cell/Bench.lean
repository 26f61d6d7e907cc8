import Counterpart.Cell.Basic

/-!
# Using cells

A bench of cells keeps every cell at the place where it was put first. A cell that is given up
leaves its place empty. A value that is moved out of a cell is handed to the caller, who drops it
after looking at it.
-/

namespace Counterpart

open Run

/-- The cells in use; a place whose cell was given up is empty. -/
abbrev CellBench (V : Type) := List (Option (Cell V))

/-- A use of a cell that exists. -/
inductive CellUse (V : Type) where
  | set (value : V)
  | clear
  | isSet
  | get (name : String)
  /-- Change the value in place. -/
  | modify (name : String) (change : V → V)
  /-- Put another value in the place of the present one. -/
  | overwrite (name : String) (value : V)
  /-- Move the value out. -/
  | take
  /-- Move the value out and give the cell up. -/
  | intoInner
  | drop
  | clone (copy : V → V)
  /-- Look at the value without a name. -/
  | show
  | unknown

/-- What a use of a cell answers. -/
inductive CellReply (V : Type) where
  | done
  | truth (value : Bool)
  | value (value : V)
  /-- A value that may be absent. -/
  | optional (value : Option V)
  | missing (property : MissingProperty)
  | shown (value : Option V)
  /-- The place of a new cell. -/
  | place (place : Nat)
  | noCell
  | unknown
deriving DecidableEq, Repr

/-- The value that is handed to the caller; other values in answers are only shown. -/
def CellReply.handedOut {V : Type} : CellReply V → List V
  | .optional taken => taken.toList
  | _ => []

/-- A step in the life of cells. -/
inductive CellStep (V : Type) where
  /-- Make a cell without a value. -/
  | create
  /-- Make a cell with a value. -/
  | createWith (value : V)
  | call (place : Nat) (use : CellUse V)

namespace CellBench

variable {V α : Type}

/-- Put a new cell behind the others. -/
def add (cell : Cell V) : Action V (CellBench V) (CellReply V) := fun bench =>
  ⟨.finished (.place bench.length), bench ++ [some cell], []⟩

/-- Work on the cell at a place. -/
def onCell (place : Nat) (action : Action V (Cell V) (CellReply V)) :
    Action V (CellBench V) (CellReply V) := fun bench =>
  match bench[place]? with
  | some (some cell) =>
    let ran := action cell
    ran.withState (bench.set place (some ran.state))
  | _ => Action.finish .noCell bench

/-- Work on the cell at a place and give it up. -/
def onGivenUp (place : Nat) (action : Action V (Cell V) (CellReply V)) :
    Action V (CellBench V) (CellReply V) := fun bench =>
  match bench[place]? with
  | some (some cell) => (action cell).withState (bench.set place none)
  | _ => Action.finish .noCell bench

/-- What reading a property is answered as. -/
def replyOf : Except MissingProperty V → CellReply V
  | .ok value => .value value
  | .error missing => .missing missing

/-- Call a function of the cell at a place. -/
def call [Destructible V] (place : Nat) : CellUse V → Action V (CellBench V) (CellReply V)
  | .set value => onCell place do
    Action.receive [value]
    Cell.set value
    pure .done
  | .clear => onCell place do
    Cell.clear
    pure .done
  | .isSet => onCell place do
    let cell ← Action.look
    pure (.truth cell.isSet)
  | .get name => onCell place do
    let found ← Cell.get name
    pure (replyOf found)
  | .modify name change => onCell place do
    let found ← Cell.modify name change
    pure (replyOf found)
  | .overwrite name value => onCell place do
    Action.receive [value]
    let found ← Cell.overwrite name value
    pure (replyOf found)
  | .take => onCell place do
    let taken ← Cell.take
    pure (.optional taken)
  | .intoInner => onGivenUp place do
    let taken ← Cell.intoInner
    pure (.optional taken)
  | .drop => onGivenUp place do
    Cell.clear
    pure .done
  | .clone copy => fun bench =>
    match bench[place]? with
    | some (some cell) =>
      (Cell.clone copy cell).andThen (fun copied _ => add copied bench) fun _ => bench
    | _ => Action.finish .noCell bench
  | .show => onCell place do
    let found ← Cell.get ""
    pure (.shown found.toOption)
  | .unknown => onCell place (pure .unknown)

/-- Use the cell at a place, and drop what it hands out. -/
def use [Destructible V] (place : Nat) (use : CellUse V) :
    Action V (CellBench V) (CellReply V) := do
  let reply ← call place use
  Action.drop reply.handedOut
  pure reply

/-- Make a cell, or call a function of one. -/
def run [Destructible V] : CellStep V → Action V (CellBench V) (CellReply V)
  | .create => add Cell.unset
  | .createWith value => do
    Action.receive [value]
    add (Cell.ofValue value)
  | .call place use => call place use

variable [Destructible V]

/-- Cloning a cell adds a cell with a copy of its value, and leaves all others as they are. -/
theorem call_clone {bench : CellBench V} {place : Nat} {cell : Cell V}
    (hplace : bench[place]? = some (some cell)) (hcell : cell.WellFormed) (copy : V → V) :
    call place (.clone copy) bench =
      ⟨.finished (.place bench.length), bench ++ [some (.ofOption (cell.value?.map copy))],
        cell.value?.toList.flatMap fun value => [.cloned value, .received (copy value)]⟩ := by
  simp only [call, hplace]
  rw [Cell.clone_of_wellFormed hcell, Ran.andThen_finished, add, Ran.after_mk, List.append_nil]

/-- Setting a cell whose former value panics leaves it without a value, and all others as they
are. -/
theorem call_set_of_panics {bench : CellBench V} {place : Nat} {former : V}
    (hplace : bench[place]? = some (some (.ofValue former)))
    (hformer : Destructible.panics former = true) (value : V) :
    call place (.set value) bench =
      ⟨if Destructible.panicsAgain value then .aborted else .panicked,
        bench.set place (some ⟨false, .stale former⟩),
        [.received value, .dropped former, .dropped value]⟩ := by
  simp only [call, onCell, hplace, Action.bind_def, Action.receive_def, Ran.andThen_finished]
  rw [Cell.set_of_panics hformer]
  cases hagain : (Destructible.panicsAgain value : Bool) <;> simp

end CellBench

end Counterpart
