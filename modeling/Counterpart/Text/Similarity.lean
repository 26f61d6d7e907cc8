/-!
# How alike two words are

The likeness of two words counts the characters that they share at nearby places and how many of
those are out of order. Words that are alike count as more so if they begin alike.
-/

namespace Counterpart.Text

/-- Whether each character of the second word is still free. -/
abbrev Slots := List (Char × Bool)

/-- Take the first free slot with the given character among those from `low` up to `high`, both
places counted from here; the answer has the slots with that one taken. -/
def takeSlot (character : Char) : (low high : Nat) → Slots → Option Slots
  | _, 0, _ => none
  | _, _, [] => none
  | 0, high + 1, (found, free) :: rest =>
    if free ∧ found = character then some ((found, false) :: rest)
    else (takeSlot character 0 high rest).map ((found, free) :: ·)
  | low + 1, high + 1, slot :: rest => (takeSlot character low high rest).map (slot :: ·)

/-- The characters of the first word that find a partner in the second within a distance, and the
slots of the second word afterwards. -/
def partners (distance : Nat) : (index : Nat) → List Char → Slots → List Char × Slots
  | _, [], slots => ([], slots)
  | index, character :: rest, slots =>
    match takeSlot character (index - distance) (index + distance + 1) slots with
    | some taken =>
      let (found, remaining) := partners distance (index + 1) rest taken
      (character :: found, remaining)
    | none => partners distance (index + 1) rest slots

/-- The number of places at which two words differ. -/
def mismatches (first second : List Char) : Nat :=
  (first.zip second).countP fun (a, b) => a ≠ b

/-- The length of the common start of two words. -/
def sharedStart : List Char → List Char → Nat
  | a :: first, b :: second => if a = b then sharedStart first second + 1 else 0
  | _, _ => 0

/-- The likeness of two words, from zero to one. -/
def likeness (first second : String) : Float :=
  let a := first.toList
  let b := second.toList
  if a.isEmpty && b.isEmpty then 1.0
  else if a.isEmpty || b.isEmpty then 0.0
  else
    let distance := max a.length b.length / 2 - 1
    let (found, slots) := partners distance 0 a (b.map fun character => (character, true))
    if found.isEmpty then 0.0
    else
      let partnersOfSecond := (slots.filter fun (_, free) => !free).map (·.1)
      let count := found.length.toFloat
      let disorder := (mismatches found partnersOfSecond / 2).toFloat
      (count / a.length.toFloat + count / b.length.toFloat + (count - disorder) / count) / 3.0

/-- The likeness of two words, raised for a common start of up to four characters. -/
def similarity (first second : String) : Float :=
  let base := likeness first second
  if base > 0.7 then
    let start := (min 4 (sharedStart first.toList second.toList)).toFloat
    base + 0.1 * start * (1.0 - base)
  else base

/-- The word that a mistaken one was meant to be: the most similar of the known words, the first
of several, if it is similar enough. -/
def nearest? (mistaken : String) (known : List String) : Option String :=
  let best := known.foldl (fun best word =>
    let score := similarity mistaken word
    match best with
    | some (leading, _) => if score > 0.8 && leading < score then some (score, word) else best
    | none => if score > 0.8 then some (score, word) else none) (none : Option (Float × String))
  best.map (·.2)

end Counterpart.Text
