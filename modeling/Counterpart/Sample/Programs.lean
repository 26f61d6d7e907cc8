import Counterpart.Grammar.Reading
import Counterpart.Run.Bench
import Counterpart.Sample.Value
import Counterpart.Token.Lexer
import Counterpart.Token.Printer

/-!
# Sample programs

A few structs with their markers, and what the expressions in their defaults mean.
-/

namespace Counterpart.Sample

open Run

/-- A struct with the arguments of its marker. -/
structure Source where
  name : String
  arguments : String
  code : String
deriving Repr

/-- The sample structs. -/
def sources : List Source :=
  [⟨"Person", "",
    "struct Person \x7b name: String, #[piecemeal(default = Some(name.clone()))] nickname: Option<String>, #[piecemeal(default = 0)] age: u32 \x7d"⟩,
   ⟨"Test", "",
    "struct Test \x7b nullable_value: Option<String>, non_null_value: String, primitive_value: i32 \x7d"⟩,
   ⟨"Ordered", "",
    "struct Ordered \x7b #[piecemeal(default = counted(1))] first: u32, second: u32, #[piecemeal(default = counted(first.wrapping_add(second)))] third: u32 \x7d"⟩,
   ⟨"Droppy", "",
    "struct Droppy \x7b first: Logged, second: Logged, #[piecemeal(default = Logged(first.0 * 10 + second.0))] third: Logged, fourth: Logged \x7d"⟩,
   ⟨"Bean", "java_setters, style = \"builder\"",
    "struct Bean \x7b r#type: String, #[piecemeal(default = r#type.is_empty())] active: bool \x7d"⟩,
   ⟨"Pair", "rename = Draft",
    "struct Pair<T: Default> \x7b #[piecemeal(default = T::default())] left: T, #[piecemeal(default = Self::LIMIT)] right: u32 \x7d"⟩,
   ⟨"Empty", "", "struct Empty \x7b\x7d"⟩]

/-- A value that is given without anything happening. -/
def giving (value : Value) : Ran Value Unit Value := Action.finish value ()

/-- A number whose evaluation is noticed. -/
def counted (number : Int) : Ran Value Unit Value :=
  ⟨.finished (.integer number), (), [.evaluated (.integer number)]⟩

/-- The value of a local. -/
def localValue? (locals : ValueRecord Value) (name : String) : Option Value :=
  (locals.find? fun entry => entry.1.name = name).map (·.2)

/-- The greatest number of values that fit into 32 bits. -/
def wordSize : Int := 4294967296

/-- What the expressions in the sample structs mean. -/
def meaning (code : String) (locals : ValueRecord Value) : Ran Value Unit Value :=
  let found := localValue? locals
  match code with
  | "0" => giving (.integer 0)
  | "Some (name . clone ())" =>
    match found "name" with
    | some (.text content) => giving (.optionalText (some content))
    | _ => Action.stuck ()
  | "counted (1)" => counted 1
  | "counted (first . wrapping_add (second))" =>
    match found "first", found "second" with
    | some (.integer first), some (.integer second) => counted ((first + second) % wordSize)
    | _, _ => Action.stuck ()
  | "Logged (first . 0 * 10 + second . 0)" =>
    match found "first", found "second" with
    | some (.watched first), some (.watched second) => giving (.watched (first * 10 + second))
    | _, _ => Action.stuck ()
  | "r#type . is_empty ()" =>
    match found "type" with
    | some (.text content) => giving (.truth content.isEmpty)
    | _ => Action.stuck ()
  | "T :: default ()" => giving (.optionalText none)
  | "< Pair < T , > > :: LIMIT" => giving (.integer 7)
  | _ => Action.stuck ()

/-- The meaning of the defaults. -/
def evaluate : Evaluator Value := fun expression locals =>
  meaning (TokenTree.renderAll expression.tokens) locals

/-- The type of the values of a field with the given type; the parameter of a sample struct
stands for an optional text. -/
def valueType? (type : Tree) : Option ValueType :=
  match TokenTree.renderAll type.tokens with
  | "String" => some .text
  | "Option < String >" => some .optionalText
  | "T" => some .optionalText
  | "u32" => some .integer
  | "i32" => some .integer
  | "bool" => some .truth
  | "Logged" => some .watched
  | _ => none

/-- The program of a sample struct. -/
def Source.program? (source : Source) : Option (Program Value) := do
  let arguments ← TokenTree.ofSource? source.arguments
  let code ← TokenTree.ofSource? source.code
  let arguments ← (MarkerArguments.ofTokens arguments).toOption
  let item ← (Grammar.read (fun grammar => grammar.item) code).toOption
  let struct ← item.asHost.toOption
  let host ← (Host.ofStruct struct (Configuration.standard.overriding arguments)
    arguments.rename).toOption
  (Program.ofHost host evaluate).toOption

/-- The sample program with the given name. -/
def program? (name : String) : Option (Program Value) :=
  (sources.find? fun source => source.name = name).bind Source.program?

/-- The type of the values of a property. -/
def propertyType? (program : Program Value) (field : String) : Option ValueType :=
  (program.host.parameters.find? fun parameter =>
    Naming.displayName parameter.name.value = field).bind fun parameter =>
      valueType? parameter.type

end Counterpart.Sample
