import Crossword.Position

/-!
# Orientations and anchors

A word is written across or down from an anchor, the square of its first letter. Anchors have
signed coordinates: a word that crosses a letter near the edge may have to begin off the grid, and
such an anchor is rejected later, when its squares are looked up.
-/

namespace Crossword

/-- The direction in which a word is written. -/
inductive Orientation where
  /-- From left to right along a row. -/
  | across
  /-- From top to bottom along a column. -/
  | down
  deriving DecidableEq, Hashable

namespace Orientation

/-- Both directions, in the order in which their words are listed. -/
def all : List Orientation := [across, down]

/-- Rows from one letter to the next. -/
@[inline] def rowStep : Orientation → Nat
  | across => 0
  | down => 1

/-- Columns from one letter to the next. -/
@[inline] def colStep : Orientation → Nat
  | across => 1
  | down => 0

/-- The heading of the words of this direction. -/
def label : Orientation → String
  | across => "Across"
  | down => "Down"

end Orientation

/-- Where a word begins, and its direction. -/
structure Anchor where
  row : Int
  col : Int
  orientation : Orientation
  deriving DecidableEq, Hashable

namespace Anchor

/-- Row of the square a number of steps along. -/
@[inline] def rowAt (a : Anchor) (steps : Int) : Int := a.row + a.orientation.rowStep * steps

/-- Column of the square a number of steps along. -/
@[inline] def colAt (a : Anchor) (steps : Int) : Int := a.col + a.orientation.colStep * steps

/-- The square a number of steps along, if it lies in the rectangle. -/
def square? (a : Anchor) (steps : Int) (rows cols : Nat) : Option Position :=
  let row := a.rowAt steps
  let col := a.colAt steps
  if 0 ≤ row ∧ row < rows ∧ 0 ≤ col ∧ col < cols then some ⟨row.toNat, col.toNat⟩ else none

/-- The square a number of steps along is the one with these coordinates, if it is in range. -/
theorem square?_eq_some_iff {a : Anchor} {steps : Int} {rows cols : Nat} {p : Position} :
    a.square? steps rows cols = some p ↔
      (p.row : Int) = a.rowAt steps ∧ (p.col : Int) = a.colAt steps ∧ p.row < rows ∧
        p.col < cols := by
  obtain ⟨r, c⟩ := p
  simp only [square?]
  split
  · simp only [Option.some.injEq, Position.mk.injEq]
    omega
  · simp only [reduceCtorEq, false_iff]
    omega

end Anchor

end Crossword
