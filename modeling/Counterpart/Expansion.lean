import Counterpart.Session

/-!
# Expanding an annotated item

A marker on a struct gives the struct its counterpart. A marker on a module gives one to every
marked struct inside of it, at any depth, and its arguments hold for all of them that do not
choose otherwise. If anything is wrong, nothing is generated: the item stays, without the
attributes that only the expansion understands, and every diagnostic follows as an error.
-/

namespace Counterpart

namespace Variant

/-- The variant without helpers on its fields. -/
def withoutHelpers (variant : Variant) : Variant :=
  { variant with fields := variant.fields.withoutHelpers }

end Variant

namespace Item

mutual

/-- The item without helpers on its fields and, inside of a module, without markers. -/
def stripped : Item → Item
  | .record item => .record item.withoutHelpers
  | .enumeration item =>
    .enumeration { item with variants := item.variants.map (·.withoutHelpers) }
  | .unionType item => .unionType { item with fields := item.fields.map (·.withoutHelpers) }
  | .inlineModule attributes head opening closing content =>
    .inlineModule attributes head opening closing (strippedAll content)
  | item => item

/-- The items of a module, stripped and without markers. -/
def strippedAll : List Item → List Item
  | [] => []
  | item :: rest =>
    (stripped item).withAttributes (Attribute.withoutMarkers item.attributes) :: strippedAll rest

end

end Item

namespace Expansion

/-- A part of an expansion. All parts share one session. -/
abbrev Walk (α : Type) := ExceptT Failure (StateM Session) α

namespace Walk

/-- What becomes of a part of an expansion and of the session. -/
def outcome {α : Type} (walk : Walk α) (session : Session) : Generated α × Session :=
  walk.run.run session

variable {α β : Type}

@[simp] theorem outcome_mk (step : Session → Generated α × Session) (session : Session) :
    outcome (ExceptT.mk step) session = step session := rfl

@[simp] theorem outcome_pure (value : α) (session : Session) :
    outcome (pure value) session = (.ok value, session) := rfl

/-- What follows goes on with the session; a failure ends the part. -/
theorem outcome_bind (walk : Walk α) (next : α → Walk β) (session : Session) :
    outcome (walk >>= next) session =
      match outcome walk session with
      | (.ok value, later) => (next value).outcome later
      | (.error reason, later) => (.error reason, later) := by
  change (match walk.outcome session with
    | (result, later) => ExceptT.bindCont next result later) = _
  rcases walk.outcome session with ⟨_ | _, later⟩ <;> rfl

end Walk

/-- Something checked, as a part of an expansion. -/
def ofChecked {α : Type} (value : Checked α) : Walk α :=
  ExceptT.mk (pure (value.mapError .rejected))

/-- Register a struct with the session. -/
def registered (item : StructItem) (configuration : Configuration)
    (rename : Option (Located Ident)) : Walk Nat :=
  ExceptT.mk fun session =>
    match session.register item configuration rename with
    | .ok (id, later) => (.ok id, later)
    | .error diagnostics => (.error (.rejected diagnostics), session)

/-- What the session emits for the host with the given number. -/
def emitted (id : Nat) : Walk Emission :=
  ExceptT.mk fun session => (session.emit id, session)

/-- What holds inside of a marked module. -/
def moduleConfiguration (configuration : Configuration) (arguments : MarkerArguments) :
    Checked Configuration :=
  match arguments.rename with
  | some name => Checked.fail .renamedModule name.region
  | none => .ok (configuration.overriding arguments)

/-- What is emitted for a marked item. -/
def emissionOf (configuration : Configuration) (arguments : MarkerArguments) (item : Item) :
    Walk Emission := do
  let struct ← ofChecked item.asHost
  let id ← registered struct (configuration.overriding arguments) arguments.rename
  emitted id

/-- What holds inside of a module that may be marked. -/
def innerConfiguration (configuration : Configuration) (marker : Option Attribute) :
    Checked Configuration :=
  match marker with
  | none => .ok configuration
  | some marker => do
    let arguments ← MarkerArguments.ofMarker marker
    moduleConfiguration configuration arguments

/-- The expansion of an item with its first marker set apart. -/
def ofMarked (configuration : Configuration) (marker : Attribute) (item : Item) : Walk Item := do
  let arguments ← ofChecked (MarkerArguments.ofMarker marker)
  let emission ← emissionOf configuration arguments item
  pure (.verbatim emission.tokens)

mutual

/-- The expansion of an item inside of a marked module. -/
def ofInner (configuration : Configuration) : Item → Walk Item
  | .outlineModule attributes head => pure (.outlineModule (Attribute.withoutMarker attributes) head)
  | .inlineModule attributes head opening closing content => do
    let marker := (Attribute.takeMarker? attributes).map (·.1)
    let inner ← ofChecked (innerConfiguration configuration marker)
    let items ← ExceptT.mk (Host.gather <$> ofInners inner content)
    pure (.inlineModule (Attribute.withoutMarker attributes) head opening closing items)
  | item =>
    match Attribute.takeMarker? item.attributes with
    | none => pure item
    | some (marker, rest) => ofMarked configuration marker (item.withAttributes rest)

/-- The expansions of the items of a module, one after the other, each with what is wrong with it. -/
def ofInners (configuration : Configuration) : List Item → StateM Session (List (Generated Item))
  | [] => pure []
  | item :: rest => do
    let first ← (ofInner configuration item).run
    let later ← ofInners configuration rest
    pure (first :: later)

end

/-- An item that is no module is expanded for its marker alone. -/
theorem ofInner_of_isModule_eq_false {item : Item} (h : item.isModule = false)
    (configuration : Configuration) :
    ofInner configuration item =
      match Attribute.takeMarker? item.attributes with
      | none => pure item
      | some (marker, rest) => ofMarked configuration marker (item.withAttributes rest) := by
  cases item <;> first | rfl | cases h

/-- The expansion of an item whose marker has the given arguments, within a session. What no marker
asks for is as the session was started. -/
def ofOuter (base : Configuration) (arguments : MarkerArguments) (item : Item) :
    Walk (List TokenTree) :=
  match item with
  | .inlineModule attributes head opening closing content => do
    let inner ← ofChecked (moduleConfiguration base arguments)
    let items ← ExceptT.mk (Host.gather <$> ofInners inner content)
    pure (Item.inlineModule attributes head opening closing items).tokens
  | .outlineModule _ _ => do
    let _ ← ofChecked (moduleConfiguration base arguments)
    ofChecked (Checked.fail .outlineModule item.region)
  | _ => do
    let emission ← emissionOf base arguments item
    pure emission.tokens

/-- The expansion of an item whose marker has the given arguments. It has a session of its own. -/
def ofItem (base : Configuration) (arguments : MarkerArguments) (item : Item) :
    Generated (List TokenTree) :=
  ((ofOuter base arguments item).outcome .empty).1

open Template in
/-- The code that reports a diagnostic. -/
def report (diagnostic : Diagnostic) : List TokenTree :=
  path ["core", "compile_error"] ++ mark "!"
    ++ braces [.literal (Text.stringLiteral diagnostic.message) none]

/-- The outcome for an item that something is wrong with. -/
def rejection (item : Item) (diagnostics : List Diagnostic) : List TokenTree :=
  item.stripped.tokens ++ diagnostics.flatMap report

/-- What is generated for an item whose marker has the given argument list. -/
def generated (base : Configuration) (arguments : List TokenTree) (item : Item) :
    Generated (List TokenTree) := do
  let arguments ← (MarkerArguments.ofTokens arguments).mapError .rejected
  ofItem base arguments item

/-- The outcome for an item whose marker has the given argument list. Only a broken template leaves
it without one. -/
def ofTokens? (base : Configuration) (arguments : List TokenTree) (item : Item) :
    Option (List TokenTree) :=
  match generated base arguments item with
  | .ok tokens => some tokens
  | .error (.rejected diagnostics) => some (rejection item diagnostics)
  | .error .brokenTemplate => none

/-- The outcome for code that should be an item, if it is one. The session starts with what the
build chooses. -/
def ofCodeFrom (base : Configuration) (arguments code : List TokenTree) :
    Except Fault (Option (List TokenTree)) := do
  let item ← Grammar.read (fun grammar => grammar.item) code
  pure (ofTokens? base arguments item)

/-- The outcome in a build that chooses nothing. -/
def ofCode (arguments code : List TokenTree) : Except Fault (Option (List TokenTree)) :=
  ofCodeFrom .standard arguments code

end Expansion

end Counterpart
