import Counterpart.Run.Body

/-!
# Using generated code

A program is a host with all that is emitted for it. A bench holds any number of its hosts and
counterparts, each at a place of its own. A step makes, uses or drops one of them through the
generated functions. What is put in a place that is taken drops what was there.
-/

namespace Counterpart

open Run

/-- A host with its generated code and the meaning of its defaults. -/
structure Program (V : Type) where
  host : Host
  emission : Emission
  evaluate : Evaluator V

/-- The hosts and counterparts in use, with their places. -/
structure Bench (V : Type) where
  counterparts : List (Nat × CellRecord V)
  hosts : List (Nat × ValueRecord V)
deriving Repr

/-- A use of a single property, which is known by the name that users are shown. -/
inductive Access (V : Type) where
  | set (field : String) (value : V)
  | get (field : String)
  /-- Borrow the property for changes and edit it. -/
  | edit (field : String) (edit : Edit V)
  /-- Panic for a reason of one's own. -/
  | panic

/-- A use of the generated code. -/
inductive Step (V : Type) where
  /-- Make a counterpart by its constructor. -/
  | construct (place : Nat)
  /-- Make the default of the counterpart. -/
  | default (place : Nat)
  | dropCounterpart (place : Nat)
  | dropHost (place : Nat)
  /-- Turn a host into a counterpart. -/
  | into (source place : Nat)
  /-- Use a property of a counterpart. -/
  | access (place : Nat) (access : Access V)
  /-- Turn a counterpart into a host. -/
  | build (source place : Nat)
  /-- Change a host through its counterpart. -/
  | copy (source place : Nat) (accesses : List (Access V))
  /-- Make a host through its counterpart. -/
  | create (place : Nat) (accesses : List (Access V))

/-- What a step answers. -/
inductive Reply (V : Type) where
  | done
  | present (value : V)
  | missing (property : MissingProperty)
  | noCounterpart
  | noHost
  | noField
  | built (replies : List (Reply V)) (result : BuildResult V)

namespace Program

variable {V : Type}

/-- The program for a host, unless something is wrong with it. -/
def ofHost (host : Host) (evaluate : Evaluator V) : Generated (Program V) := do
  let emission ← host.emission
  pure ⟨host, emission, evaluate⟩

/-- The name of the generated function of a kind. -/
def functionName? (program : Program V) (kind : MemberKind) : Option Ident :=
  (Member.find? program.host.table kind).map (·.name)

/-- The name of an accessor of the property with the given name. -/
def accessorName? (program : Program V) (field : String) (accessor : Accessor) : Option Ident :=
  (program.host.parameters.find? fun parameter =>
    Naming.displayName parameter.name.value = field).bind fun parameter =>
      program.functionName? (.property parameter.index accessor)

/-- What a property without or with a value is answered as. -/
def replyOf : Except MissingProperty V → Reply V
  | .ok value => .present value
  | .error missing => .missing missing

/-- Use a property of a counterpart. -/
def access [Destructible V] (program : Program V) : Access V → Action V (CellRecord V) (Reply V)
  | .set field value =>
    match program.accessorName? field .set with
    | none => pure .noField
    | some setter => do
      Action.receive [value]
      program.emission.write setter value
      pure .done
  | .get field =>
    match program.accessorName? field .get with
    | none => pure .noField
    | some getter => do
      let found ← program.emission.read getter
      pure (replyOf found)
  | .edit field edit =>
    match program.accessorName? field .getMut with
    | none => pure .noField
    | some getter => do
      Action.receive edit.brought
      let found ← program.emission.lend getter edit
      pure (replyOf found)
  | .panic => Action.panic

/-- Use properties of a counterpart in turn. -/
def accessAll [Destructible V] (program : Program V) :
    List (Access V) → Action V (CellRecord V) (List (Reply V))
  | [] => pure []
  | first :: rest => do
    let reply ← program.access first
    let replies ← program.accessAll rest
    pure (reply :: replies)

end Program

namespace Bench

variable {V α : Type}

/-- A bench with nothing on it. -/
def empty : Bench V := ⟨[], []⟩

/-- What is at a place. -/
def at? {R : Type} (place : Nat) (entries : List (Nat × R)) : Option R :=
  (entries.find? fun entry => entry.1 = place).map (·.2)

/-- The entries without the one at a place. -/
def remove {R : Type} (place : Nat) (entries : List (Nat × R)) : List (Nat × R) :=
  entries.eraseP fun entry => entry.1 = place

/-- The values that a counterpart at a place owns. -/
def counterpartContents (place : Nat) (bench : Bench V) : List V :=
  match at? place bench.counterparts with
  | some record => CellRecord.contents record
  | none => []

/-- The values of a host at a place. -/
def hostContents (place : Nat) (bench : Bench V) : List V :=
  match at? place bench.hosts with
  | some record => ValueRecord.contents record
  | none => []

/-- The bench without the counterpart at a place. -/
def withoutCounterpart (place : Nat) (bench : Bench V) : Bench V :=
  { bench with counterparts := remove place bench.counterparts }

/-- The bench without the host at a place. -/
def withoutHost (place : Nat) (bench : Bench V) : Bench V :=
  { bench with hosts := remove place bench.hosts }

/-- Put a counterpart at a place and drop the one that was there. -/
def putCounterpart [Destructible V] (place : Nat) (record : CellRecord V) :
    Action V (Bench V) Unit := fun bench =>
  Action.drop (bench.counterpartContents place)
    { bench with counterparts := (place, record) :: remove place bench.counterparts }

/-- Put a host at a place and drop the one that was there. -/
def putHost [Destructible V] (place : Nat) (record : ValueRecord V) : Action V (Bench V) Unit :=
  fun bench =>
    Action.drop (bench.hostContents place)
      { bench with hosts := (place, record) :: remove place bench.hosts }

/-- Run code that does not look at the bench. -/
def outside (ran : Ran V Unit α) : Action V (Bench V) α := fun bench => ran.withState bench

/-- Run code on the counterpart at a place. -/
def onCounterpart (place : Nat) (action : Action V (CellRecord V) (Reply V)) :
    Action V (Bench V) (Reply V) := fun bench =>
  match at? place bench.counterparts with
  | none => Action.finish .noCounterpart bench
  | some record =>
    let ran := action record
    ran.withState
      { bench with counterparts := (place, ran.state) :: remove place bench.counterparts }

/-- Take the counterpart from a place and go on with it. -/
def withTakenCounterpart (place : Nat) (next : CellRecord V → Action V (Bench V) (Reply V)) :
    Action V (Bench V) (Reply V) := fun bench =>
  match at? place bench.counterparts with
  | none => Action.finish .noCounterpart bench
  | some record => next record (bench.withoutCounterpart place)

/-- Take the host from a place and go on with it. -/
def withTakenHost (place : Nat) (next : ValueRecord V → Action V (Bench V) (Reply V)) :
    Action V (Bench V) (Reply V) := fun bench =>
  match at? place bench.hosts with
  | none => Action.finish .noHost bench
  | some record => next record (bench.withoutHost place)

/-- Put what was built at a place, and answer it. -/
def keepBuilt [Destructible V] (place : Nat) (replies : List (Reply V)) (result : BuildResult V) :
    Action V (Bench V) (Reply V) := do
  match result with
  | .ok host => putHost place host
  | .error _ => pure ()
  pure (.built replies result)

/-- Go on with the name of the generated function of a kind. -/
def calling (program : Program V) (kind : MemberKind)
    (next : Ident → Action V (Bench V) (Reply V)) : Action V (Bench V) (Reply V) :=
  match program.functionName? kind with
  | some name => next name
  | none => Action.stuck

/-- Do a step. -/
def run [Destructible V] (program : Program V) : Step V → Action V (Bench V) (Reply V)
  | .construct place =>
    calling program .constructor fun constructor => do
      let record ← outside (program.emission.construct constructor)
      putCounterpart place record
      pure .done
  | .default place => do
    let record ← outside program.emission.makeDefault
    putCounterpart place record
    pure .done
  | .dropCounterpart place => fun bench =>
    (Action.drop (bench.counterpartContents place) (bench.withoutCounterpart place)).andThen
      (fun _ => Action.finish .done) id
  | .dropHost place => fun bench =>
    (Action.drop (bench.hostContents place) (bench.withoutHost place)).andThen
      (fun _ => Action.finish .done) id
  | .into source place =>
    calling program .intoCounterpart fun into =>
      withTakenHost source fun host => do
        let record ← outside (program.emission.intoCounterpart into host)
        putCounterpart place record
        pure .done
  | .access place access => onCounterpart place (program.access access)
  | .build source place =>
    calling program .build fun build =>
      withTakenCounterpart source fun record => do
        let result ← outside (program.emission.build program.evaluate build record)
        keepBuilt place [] result
  | .copy source place accesses =>
    calling program .copy fun copy =>
      withTakenHost source fun host => do
        let (replies, result) ← outside
          (program.emission.copy program.evaluate copy (program.accessAll accesses) host)
        keepBuilt place replies result
  | .create place accesses =>
    calling program .factory fun factory => do
      let (replies, result) ← outside
        (program.emission.create program.evaluate factory (program.accessAll accesses))
      keepBuilt place replies result

end Bench

end Counterpart
