import Crossword.Grid
import Crossword.Layout

/-!
# Drafts

A draft is a grid in the making: its letters, how many words own each square, and the layout of the
words placed so far. Words that cross share a square, so a square is written when its first owner
arrives and blanked when its last owner leaves. `Draft.commit` places a word and records it,
`Draft.undo` takes the latest one back.
-/

namespace Crossword

/-- The greatest number of owners that is counted. -/
def maxOwners : Nat := UInt32.size - 1

/-- A grid in the making. -/
structure Draft where
  grid : Grid
  /-- How many words own each square. -/
  owners : Board Nat
  layout : Layout

namespace Draft

/-- A draft over a grid, with no word placed and a count for each square of a rectangle. -/
def onGrid (grid : Grid) (rows cols : Nat) : Draft := ⟨grid, Board.fill rows cols 0, .empty⟩

/-- A draft on a blank square grid. -/
def blank (side : Nat) : Draft := onGrid (.blank side side) side side

/-- The number of owners of a square; zero where none are counted. -/
def ownersAt (d : Draft) (p : Position) : Nat := (d.owners.get? p).getD 0

/-- Holds if no square has an owner. -/
def isClear (d : Draft) : Bool := d.owners.all (· == 0)

/-- One more owner for a square; the first one writes its letter. The number of squares written is
returned as well. -/
def claimSquare (d : Draft) (p : Position) (letter : Char) : Draft × Nat :=
  match d.owners.get? p with
  | none => (d, 0)
  | some 0 =>
    ({ d with grid := d.grid.set p (.letter letter), owners := d.owners.set p 1 }, 1)
  | some (n + 1) => ({ d with owners := d.owners.set p (min (n + 2) maxOwners) }, 0)

/-- One more owner for each of the squares; the number of squares written is returned as well. -/
def claimSquares (d : Draft) : List (Position × Char) → Draft × Nat
  | [] => (d, 0)
  | (p, letter) :: rest =>
    let (d, first) := d.claimSquare p letter
    let (d, others) := d.claimSquares rest
    (d, first + others)

/-- Makes a word an owner of its squares; the number of squares written is returned as well. -/
def claim (d : Draft) (word : String) (placement : Placement) : Draft × Nat :=
  d.claimSquares (placement.lettered word)

/-- One owner less for a square, which is blanked if none is left. The number of squares blanked is
returned as well. -/
def releaseSquare (d : Draft) (p : Position) : Draft × Nat :=
  match d.owners.get? p with
  | none => (d, 0)
  | some n =>
    if n ≤ 1 then
      ({ d with grid := d.grid.set p .blank, owners := d.owners.set p 0 }, 1)
    else
      ({ d with owners := d.owners.set p (n - 1) }, 0)

/-- One owner less for each of the squares; the number of squares blanked is returned as well. -/
def releaseSquares (d : Draft) : List Position → Draft × Nat
  | [] => (d, 0)
  | p :: rest =>
    let (d, first) := d.releaseSquare p
    let (d, others) := d.releaseSquares rest
    (d, first + others)

/-- One owner less for each square of a placement; the number of squares blanked is returned as
well. -/
def release (d : Draft) (placement : Placement) : Draft × Nat := d.releaseSquares placement.cells

/-- Records a word without touching the grid. -/
def record (d : Draft) (word : String) (placement : Placement) : Draft :=
  { d with layout := d.layout.push word placement }

/-- Takes the latest word from the record without touching the grid. -/
def forget? (d : Draft) : Option (PlacedWord × Draft) :=
  d.layout.pop?.map fun (entry, layout) => (entry, { d with layout })

/-- Places a word on its squares and records it. -/
def commit (d : Draft) (word : String) (placement : Placement) : Draft :=
  let entry := PlacedWord.of word placement
  let (d, _) := d.claimSquares entry.lettered
  { d with layout := d.layout.add entry }

/-- Takes the latest word back, if there is one. -/
def undo (d : Draft) : Draft :=
  match d.forget? with
  | none => d
  | some (entry, d) => (d.release entry.placement).1

@[simp] theorem layout_record (d : Draft) (word : String) (placement : Placement) :
    (d.record word placement).layout = d.layout.push word placement := rfl

theorem layout_claimSquare (d : Draft) (p : Position) (letter : Char) :
    (d.claimSquare p letter).1.layout = d.layout := by
  unfold claimSquare
  split <;> rfl

theorem layout_claimSquares (d : Draft) (squares : List (Position × Char)) :
    (d.claimSquares squares).1.layout = d.layout := by
  induction squares generalizing d with
  | nil => rfl
  | cons s rest ih =>
    obtain ⟨p, letter⟩ := s
    simp only [claimSquares, ih, layout_claimSquare]

theorem layout_releaseSquare (d : Draft) (p : Position) :
    (d.releaseSquare p).1.layout = d.layout := by
  unfold releaseSquare
  split
  · rfl
  · split <;> rfl

theorem layout_releaseSquares (d : Draft) (squares : List Position) :
    (d.releaseSquares squares).1.layout = d.layout := by
  induction squares generalizing d with
  | nil => rfl
  | cons p rest ih => simp only [releaseSquares, ih, layout_releaseSquare]

/-- Placing a word makes it an owner of its squares and records it. -/
theorem commit_eq (d : Draft) (word : String) (placement : Placement) :
    d.commit word placement = (d.claim word placement).1.record word placement := rfl

/-- A committed word is recorded after the others. -/
@[simp] theorem layout_commit (d : Draft) (word : String) (placement : Placement) :
    (d.commit word placement).layout = d.layout.push word placement := by
  simp [commit, layout_claimSquares, Layout.push, PlacedWord.of]

end Draft

end Crossword
