/-!
# Places in a source text

Every token keeps the region it was read from, so that a complaint can point at the code
that caused it. Generated code has no region.
-/

namespace Counterpart

/-- A place in a source text: lines count from one, columns count characters from zero. -/
structure Position where
  line : Nat
  column : Nat
deriving DecidableEq, Repr, Inhabited

namespace Position

/-- The start of every text. -/
def origin : Position := ⟨1, 0⟩

/-- The place behind a character: only a line feed begins a new line. -/
def after (position : Position) (character : Char) : Position :=
  if character = '\n' then ⟨position.line + 1, 0⟩ else ⟨position.line, position.column + 1⟩

/-- The place behind a run of characters. -/
def afterAll (position : Position) (characters : List Char) : Position :=
  characters.foldl after position

/-- The written form `line:column`. -/
def render (position : Position) : String :=
  toString position.line ++ ":" ++ toString position.column

end Position

/-- A stretch of source text, its end exclusive. -/
structure Region where
  start : Position
  stop : Position
deriving DecidableEq, Repr, Inhabited

namespace Region

/-- The written form `start-stop`. -/
def render (region : Region) : String :=
  region.start.render ++ "-" ++ region.stop.render

/-- The stretch from the start of one region to the end of another; a side without a region is
left out. -/
def spanning : Option Region → Option Region → Option Region
  | some first, some last => some ⟨first.start, last.stop⟩
  | some first, none => some first
  | none, last => last

end Region

/-- A value together with the region it was read from. -/
structure Located (α : Type) where
  value : α
  region : Option Region
deriving DecidableEq, Repr, Inhabited

namespace Located

/-- A value that was not read from a source text. -/
def generated {α : Type} (value : α) : Located α := ⟨value, none⟩

end Located

end Counterpart
