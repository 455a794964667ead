import Crossword.Placement

/-!
# Layouts

The words placed so far, in the order in which they were placed. The latest word is the first to be
taken back. A word may occur more than once; looking it up finds its earliest placement.
-/

namespace Crossword

/-- A word and the squares it is written on. -/
structure PlacedWord where
  word : String
  placement : Placement
  /-- The word's squares with its letters. -/
  lettered : List (Position × Char) := placement.lettered word
  lettered_eq : lettered = placement.lettered word := by rfl
  deriving DecidableEq

/-- A word written on the squares of a placement. -/
def PlacedWord.of (word : String) (placement : Placement) : PlacedWord := { word, placement }

/-- The word and its placement tell placed words apart. -/
theorem PlacedWord.ext {v w : PlacedWord} (hword : v.word = w.word)
    (hplacement : v.placement = w.placement) : v = w := by
  obtain ⟨_, _, _, hv⟩ := v
  obtain ⟨_, _, _, hw⟩ := w
  simp only at hword hplacement
  subst hword hplacement hv hw
  rfl

/-- Placed words, the earliest first. -/
structure Layout where
  placed : Array PlacedWord
  deriving DecidableEq

namespace Layout

/-- The layout without words. -/
def empty : Layout := ⟨#[]⟩

/-- The placed words in order. -/
def entries (l : Layout) : List PlacedWord := l.placed.toList

/-- Records a placed word after the others. -/
def add (l : Layout) (entry : PlacedWord) : Layout := ⟨l.placed.push entry⟩

/-- Records a word after the others. -/
def push (l : Layout) (word : String) (placement : Placement) : Layout := l.add { word, placement }

/-- Takes back the latest word. -/
def pop? (l : Layout) : Option (PlacedWord × Layout) :=
  match l.placed.back? with
  | none => none
  | some entry => some (entry, ⟨l.placed.pop⟩)

/-- The earliest placement of a word. -/
def find? (l : Layout) (word : String) : Option Placement :=
  (l.placed.find? fun entry => entry.word = word).map (·.placement)

/-- Holds of the words of the layout. -/
def contains (l : Layout) (word : String) : Bool := (l.find? word).isSome

/-- Number of placed words, repeats counted. -/
def size (l : Layout) : Nat := l.placed.size

/-- Holds of the layout without words. -/
def isEmpty (l : Layout) : Bool := l.placed.isEmpty

/-- The squares of the layout's words, word by word. -/
def squares (l : Layout) : List Position := l.entries.flatMap fun entry => entry.placement.cells

@[simp] theorem entries_push (l : Layout) (word : String) (placement : Placement) :
    (l.push word placement).entries = l.entries ++ [({ word, placement } : PlacedWord)] := by
  simp [entries, push, add]

@[simp] theorem size_push (l : Layout) (word : String) (placement : Placement) :
    (l.push word placement).size = l.size + 1 := by
  simp [size, push, add]

/-- The word recorded last is the one taken back first. -/
@[simp] theorem pop?_push (l : Layout) (word : String) (placement : Placement) :
    (l.push word placement).pop? = some ({ word, placement }, l) := by
  simp [pop?, push, add]

end Layout

end Crossword
