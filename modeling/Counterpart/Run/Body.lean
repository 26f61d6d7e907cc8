import Counterpart.Emission
import Counterpart.Run.Record

/-!
# What generated functions do

The emitted functions are run by what their bodies say. A call is looked up by its name among the
functions that were emitted for the type. Values that a function owns when it is left or unwound
are dropped: the locals in the reverse order of their declaration, then the receiver.

The defaults are code of the user, so their meaning is a parameter. A default stands inside of the
function that makes a host, and could leave this function with an answer of its own, by `return` or
`?`. Such defaults are left out: running a default gives a value, unwinds the function or ends the
process.
-/

namespace Counterpart

open Run

variable {V α β : Type}

/-- The meaning of defaults: what an expression does among the given locals. There is no outcome for
an expression that leaves the function around it with an answer; it counts as code without a
meaning. -/
abbrev Evaluator (V : Type) := Tree → ValueRecord V → Ran V Unit V

/-- What comes of building a host. -/
abbrev BuildResult (V : Type) := Except MissingProperty (ValueRecord V)

/-- What a function on a counterpart owns while it runs. The latest local comes first; a local whose
value was moved out stays without one. -/
structure Frame (V : Type) where
  locals : List (Ident × Option V)
  receiver : CellRecord V
deriving Repr

namespace Frame

/-- The frame of a function that was just called. -/
def entering (receiver : CellRecord V) : Frame V := ⟨[], receiver⟩

/-- The locals that have a value. -/
def visible (frame : Frame V) : ValueRecord V :=
  frame.locals.filterMap fun entry => entry.2.map fun value => (entry.1, value)

/-- The values that the function owns, in the order in which they are dropped. -/
def contents (frame : Frame V) : List V :=
  frame.locals.filterMap (·.2) ++ CellRecord.contents frame.receiver

/-- The frame with a further local. -/
def push (name : Ident) (value : V) (frame : Frame V) : Frame V :=
  { frame with locals := (name, some value) :: frame.locals }

/-- The frame without its latest local. -/
def pop (frame : Frame V) : Frame V := { frame with locals := frame.locals.tail }

/-- The value of the latest local, if it has one. -/
def latest (frame : Frame V) : List V := (frame.locals.head?.bind (·.2)).toList

/-- The value of a local and the locals without it. -/
def taken? (name : Ident) : List (Ident × Option V) → Option (V × List (Ident × Option V))
  | [] => none
  | (own, slot) :: rest =>
    if own = name then slot.map fun value => (value, (own, none) :: rest)
    else (taken? name rest).map fun (value, others) => (value, (own, slot) :: others)

end Frame

namespace Body

/-- The cells of a new counterpart. -/
def emptyCells (cells : List (Gated Ident)) : CellRecord V :=
  cells.map fun cell => (cell.value, Cell.unset)

/-- Work on the receiver. -/
def onReceiver (action : Action V (CellRecord V) α) : Action V (Frame V) α := fun frame =>
  let ran := action frame.receiver
  ran.withState { frame with receiver := ran.state }

/-- Move the value out of a local. -/
def moveOut (name : Ident) : Action V (Frame V) V := fun frame =>
  match Frame.taken? name frame.locals with
  | some (value, locals) => Action.finish value { frame with locals }
  | none => Action.stuck frame

/-- Give a name to a value for the time of an action. If the value is still there behind it, it is
dropped. -/
def within [Destructible V] (name : Ident) (value : V)
    (action : Action V (Frame V) (Except MissingProperty V)) :
    Action V (Frame V) (Except MissingProperty V) := fun frame =>
  (action (frame.push name value)).andThen
    (fun answer inner =>
      ((Action.drop inner.latest inner.pop).unwinding fun _ => answer.toOption.toList).andThen
        (fun _ => Action.finish answer) id)
    id

/-- Run code for a value. The function may be left before there is one, but not by a default. -/
def evaluateCode [Destructible V] (evaluate : Evaluator V) :
    Code → Action V (Frame V) (Except MissingProperty V)
  | .moved name => do
    let value ← moveOut name
    pure (.ok value)
  | .user expression => do
    let value ← fun frame => (evaluate expression frame.visible).withState frame
    Action.receive [value]
    pure (.ok value)
  | .leave shown => pure (.error ⟨shown⟩)
  | .takeOr cell binder found absent => do
    match ← onReceiver (CellRecord.onCell cell Cell.take) with
    | some value => within binder value (evaluateCode evaluate found)
    | none => evaluateCode evaluate absent

/-- Bind locals in turn, unless the function is left. -/
def bindAll [Destructible V] (evaluate : Evaluator V) :
    List Resolution → Action V (Frame V) (Except MissingProperty Unit)
  | [] => pure (.ok ())
  | step :: rest => do
    match ← evaluateCode evaluate step.code with
    | .ok value =>
      Action.change (·.push step.binding value)
      bindAll evaluate rest
    | .error missing => pure (.error missing)

/-- Make a host from locals. -/
def assemble : (fields : List Ident) → Action V (Frame V) (ValueRecord V)
  | [] => pure []
  | field :: rest => do
    let value ← moveOut field
    let others ← assemble rest
    pure ((field, value) :: others)

/-- The statements of the function that makes a host. -/
def resolveAll [Destructible V] (evaluate : Evaluator V) (steps : List Resolution)
    (fields : List Ident) : Action V (Frame V) (BuildResult V) := do
  match ← bindAll evaluate steps with
  | .ok () =>
    let host ← assemble fields
    pure (.ok host)
  | .error missing => pure (.error missing)

/-- The values of a host, if there is one. -/
def builtContents : BuildResult V → List V
  | .ok host => ValueRecord.contents host
  | .error _ => []

/-- Call a function on a receiver that it owns. However it is left, what it still owns is dropped;
if that panics, so is its answer. -/
def call [Destructible V] (action : Action V (Frame V) (BuildResult V)) (receiver : CellRecord V) :
    Ran V Unit (BuildResult V) :=
  ((action (.entering receiver)).unwinding Frame.contents).andThen
    (fun answer frame =>
      ((Action.drop frame.contents ()).unwinding fun _ => builtContents answer).andThen
        (fun _ => Action.finish answer) id)
    (fun _ => ())

end Body

namespace Emission

/-- The body of the function of the given name among functions. -/
def bodyNamed? (name : Ident) (functions : List Function) : Option Body :=
  (functions.find? fun function => function.signature.name = name).map (·.body)

/-- The body of a function of the counterpart. -/
def counterpartBody? (emission : Emission) (name : Ident) : Option Body :=
  bodyNamed? name emission.counterpartFunctions

/-- The body of a function of the host. -/
def hostBody? (emission : Emission) (name : Ident) : Option Body :=
  bodyNamed? name emission.hostFunctions

/-- Call a constructor of the counterpart. -/
def construct (emission : Emission) (constructor : Ident) : Ran V Unit (CellRecord V) :=
  match emission.counterpartBody? constructor with
  | some (.construct cells) => Action.finish (Body.emptyCells cells) ()
  | _ => Action.stuck ()

/-- Make the default of the counterpart. -/
def makeDefault (emission : Emission) : Ran V Unit (CellRecord V) :=
  emission.construct emission.constructor

/-- Call a getter of the counterpart. -/
def read (emission : Emission) (getter : Ident) :
    Action V (CellRecord V) (Except MissingProperty V) :=
  match emission.counterpartBody? getter with
  | some (.read cell shown) => CellRecord.onCell cell (Cell.get shown)
  | _ => Action.stuck

/-- Call a mutable getter of the counterpart and edit what it lends. -/
def lend [Destructible V] (emission : Emission) (getter : Ident) (edit : Edit V) :
    Action V (CellRecord V) (Except MissingProperty V) :=
  match emission.counterpartBody? getter with
  | some (.lend cell shown) => CellRecord.onCell cell (Cell.edit shown edit)
  | _ => Action.stuck

/-- Call a setter of the counterpart. -/
def write [Destructible V] (emission : Emission) (setter : Ident) (value : V) :
    Action V (CellRecord V) Unit :=
  match emission.counterpartBody? setter with
  | some (.write cell) => CellRecord.onCell cell (Cell.set value)
  | _ => Action.stuck

/-- Call the function of the counterpart that makes a host. -/
def build [Destructible V] (emission : Emission) (evaluate : Evaluator V) (build : Ident)
    (receiver : CellRecord V) : Ran V Unit (BuildResult V) :=
  match emission.counterpartBody? build with
  | some (.resolve steps _ fields) =>
    Body.call (Body.resolveAll evaluate (steps.map (·.value)) (fields.map (·.value))) receiver
  | _ => Action.stuck ()

/-- Call a setter with each of the receiver's fields in turn. -/
def transferAll [Destructible V] (emission : Emission) :
    List Transfer → (receiver : ValueRecord V) → CellRecord V → Ran V Unit (CellRecord V)
  | [], receiver, record =>
    ((Action.drop receiver.contents ()).unwinding fun _ => CellRecord.contents record).andThen
      (fun _ => Action.finish record) id
  | step :: rest, receiver, record =>
    match receiver.value? step.field with
    | none => Action.stuck ()
    | some value =>
      let remaining := receiver.without step.field
      ((emission.write step.setter value record).unwinding fun record =>
          CellRecord.contents record ++ remaining.contents).andThen
        (fun _ record => transferAll emission rest remaining record) (fun _ => ())

/-- Call the function of the host that makes a counterpart. -/
def intoCounterpart [Destructible V] (emission : Emission) (into : Ident)
    (receiver : ValueRecord V) : Ran V Unit (CellRecord V) :=
  match emission.hostBody? into with
  | some (.transfer start steps) =>
    (emission.construct start.constructor).andThen
      (fun record _ => transferAll emission (steps.map (·.value)) receiver record) id
  | _ => Action.stuck ()

/-- Apply an action to a counterpart, then build from it. If the action panics, the counterpart is
dropped. -/
def actAndBuild [Destructible V] (emission : Emission) (evaluate : Evaluator V) (buildName : Ident)
    (action : Action V (CellRecord V) β) (record : CellRecord V) :
    Ran V Unit (β × BuildResult V) :=
  ((action record).unwinding CellRecord.contents).andThen
    (fun answer record =>
      ((emission.build evaluate buildName record).andThen fun result =>
        Action.finish (answer, result)) id)
    (fun _ => ())

/-- Call the function of the host that changes it through its counterpart. -/
def copy [Destructible V] (emission : Emission) (evaluate : Evaluator V) (copy : Ident)
    (action : Action V (CellRecord V) β) (receiver : ValueRecord V) :
    Ran V Unit (β × BuildResult V) :=
  match emission.hostBody? copy with
  | some (.copy into build) =>
    (emission.intoCounterpart into receiver).andThen
      (fun record _ => emission.actAndBuild evaluate build action record) id
  | _ => Action.stuck ()

/-- Call the function of the host that makes one through its counterpart. -/
def create [Destructible V] (emission : Emission) (evaluate : Evaluator V) (factory : Ident)
    (action : Action V (CellRecord V) β) : Ran V Unit (β × BuildResult V) :=
  match emission.hostBody? factory with
  | some (.create start build) =>
    (emission.construct start.constructor).andThen
      (fun record _ => emission.actAndBuild evaluate build action record) id
  | _ => Action.stuck ()

end Emission

end Counterpart
