import Counterpart.Arguments.Basic
import Counterpart.Declaration.Marking

/-!
# The arguments of a marker

A marker may name the counterpart, ask for setters with a verb in front, and choose a style.
What it leaves open is settled by the surroundings.
-/

namespace Counterpart

/-- How the counterpart presents itself. -/
inductive Style where
  /-- A mutable version of the host. -/
  | mutable
  /-- A builder of hosts. -/
  | builder
deriving DecidableEq, Repr, Inhabited

namespace Style

/-- The word for a style. -/
def word : Style → String
  | mutable => "mutable"
  | builder => "builder"

/-- All words for styles. -/
def words : List String := [mutable.word, builder.word]

/-- The style with the given word. -/
def ofWord? (word : String) : Option Style :=
  if word = mutable.word then some mutable
  else if word = builder.word then some builder
  else none

/-- Every style is found by its word. -/
theorem ofWord?_word (style : Style) : ofWord? style.word = some style := by
  cases style <;> rfl

end Style

/-- What a marker asks for; an absent argument leaves the choice open. -/
structure MarkerArguments where
  rename : Option (Located Ident)
  javaSetters : Option Bool
  style : Option Style
deriving Repr, Inhabited, DecidableEq

namespace MarkerArguments

/-- No arguments. -/
def none : MarkerArguments := ⟨Option.none, Option.none, Option.none⟩

/-- The value of a single argument. -/
inductive Choice where
  | rename (name : Located Ident)
  | javaSetters (enabled : Bool)
  | style (style : Style)
deriving Repr

/-- The names of the arguments. -/
def names : List String := ["rename", "java_setters", "style"]

open MetaItem

/-- The name for the counterpart: a path of one word, or a string that holds one name. -/
def readRename (item : MetaItem) : Checked (Located Ident) := do
  let value ← expectValue item
  match value with
  | .node (.expression .path) [path] =>
    match path.pathIdent? with
    | some name => .ok name
    | Option.none => rejectValue value
  | _ =>
    match stringContent? value with
    | some content =>
      match (codeInString? value).map (Grammar.read fun _ => Parser.name) with
      | some (.ok name) => .ok name
      | _ => rejectContent content value
    | Option.none => rejectValue value

/-- Whether setters have a verb in front: the bare word, a truth value, or a string that holds
one. -/
def readJavaSetters (item : MetaItem) : Checked Bool :=
  match item.arguments with
  | .word => .ok true
  | _ => do
    let value ← expectValue item
    match literalToken? value, stringContent? value with
    | some (.word ident _), _ => .ok (ident.isWord "true")
    | _, some content =>
      if content = "true" then .ok true
      else if content = "false" then .ok false
      else rejectContent content value
    | _, _ => rejectValue value

/-- A style from a list of exactly one word. -/
def readStyleList (item : MetaItem) (entries : List MetaEntry) : Checked Style :=
  match entries with
  | [] => Checked.fail (.tooFewItems 1) item.region
  | [.literal _] => Checked.fail (.unexpectedForm "literal") item.region
  | [.item inner] =>
    let word := inner.path.text
    match Style.ofWord? word with
    | Option.none =>
      Checked.fail (.unknownArgument word (Text.nearest? word Style.words)) inner.region
    | some style =>
      match inner.arguments with
      | .word => .ok style
      | _ => Checked.fail (.unexpectedForm "non-path") item.region
  | _ => Checked.fail (.tooManyItems 1) item.region

/-- The style: a string, or a list of exactly one word. -/
def readStyle (item : MetaItem) : Checked Style :=
  match item.arguments with
  | .list _ _ _ content => do
    let entries ← Checked.all (Offer.ofTokens content)
    readStyleList item entries
  | _ => do
    let value ← expectValue item
    match stringContent? value with
    | some content =>
      match Style.ofWord? content with
      | some style => .ok style
      | Option.none => rejectContent content value
    | Option.none => rejectValue value

/-- The choice that a single argument makes. -/
def readChoice (item : MetaItem) : Checked Choice :=
  if item.path.text = "rename" then Choice.rename <$> readRename item
  else if item.path.text = "java_setters" then Choice.javaSetters <$> readJavaSetters item
  else Choice.style <$> readStyle item

/-- The arguments with one more choice. -/
def choose (arguments : MarkerArguments) : Choice → MarkerArguments
  | .rename name => { arguments with rename := some name }
  | .javaSetters enabled => { arguments with javaSetters := some enabled }
  | .style style => { arguments with style := some style }

/-- The arguments in a list of tokens. -/
def ofTokens (tokens : List TokenTree) : Checked MarkerArguments := do
  let items := Offer.sift names [] (Offer.ofTokens tokens)
  let choices ← Checked.all (items.map fun item => item.bind readChoice)
  pure (choices.foldl choose none)

/-- The arguments of a marker; a bare one has none. -/
def ofMarker (marker : Attribute) : Checked MarkerArguments :=
  match marker.content.arguments with
  | .word => .ok none
  | .list _ _ _ content => ofTokens content
  | .value _ _ => Checked.fail (.unexpectedForm "name-value") marker.content.region

end MarkerArguments

/-- What is settled for the members of a counterpart. -/
structure Configuration where
  javaSetters : Bool
  style : Style
deriving DecidableEq, Repr, Inhabited

namespace Configuration

/-- What holds where nothing is asked for, neither by a marker nor by the build. -/
def standard : Configuration := ⟨false, .mutable⟩

/-- Follow a marker wherever it makes a choice. -/
def overriding (configuration : Configuration) (arguments : MarkerArguments) : Configuration :=
  ⟨arguments.javaSetters.getD configuration.javaSetters, arguments.style.getD configuration.style⟩

/-- A marker without arguments changes nothing. -/
@[simp] theorem overriding_none (configuration : Configuration) :
    configuration.overriding .none = configuration := rfl

end Configuration

end Counterpart
