import Crossword.Anchor

/-!
# Placements

The squares of one word in letter order, with its direction. A placement is laid out from an anchor
and must lie in the rectangle as a whole. It can be moved to the coordinates of a trimmed grid.
-/

namespace Crossword

/-- The squares of a word in letter order. -/
structure Placement where
  cells : List Position
  orientation : Orientation
  deriving DecidableEq

namespace Placement

/-- A number of squares in a row from an anchor, the first one some steps along it. -/
def squaresFrom? (a : Anchor) (rows cols : Nat) : (count steps : Nat) → Option (List Position)
  | 0, _ => some []
  | count + 1, steps => do
    let p ← a.square? steps rows cols
    let rest ← squaresFrom? a rows cols count (steps + 1)
    return p :: rest

/-- Lays out a number of squares from an anchor; all must lie in the rectangle. -/
def ofAnchor? (a : Anchor) (length rows cols : Nat) : Option Placement :=
  (squaresFrom? a rows cols length 0).map fun cells => ⟨cells, a.orientation⟩

/-- The square of the first letter. -/
def start? (p : Placement) : Option Position := p.cells.head?

/-- The squares with the letters of a word, as far as both go. -/
def lettered (p : Placement) (word : String) : List (Position × Char) := p.cells.zip word.toList

/-- Number of squares. -/
def length (p : Placement) : Nat := p.cells.length

/-- Holds if each square is one step of the direction after the one before it. -/
def contiguousIn (o : Orientation) : List Position → Bool
  | p :: q :: rest =>
    q.row = p.row + o.rowStep && q.col = p.col + o.colStep && contiguousIn o (q :: rest)
  | _ => true

/-- Holds if the squares are a straight run without gaps in the placement's direction. -/
def isContiguous (p : Placement) : Bool := contiguousIn p.orientation p.cells

/-- The placement as seen from another corner, or nothing if a square lies above or left of it. -/
def minus? (p : Placement) (corner : Position) : Option Placement :=
  (p.cells.mapM fun (q : Position) => q.minus? corner).map fun cells => ⟨cells, p.orientation⟩

end Placement

end Crossword
