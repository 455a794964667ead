import Crossword.Distinct
import Crossword.Grid.Trim
import Crossword.Layout
import Crossword.Search.Statistics

/-!
# Puzzles

A finished puzzle: the grid cut down to its letters, the layout in the coordinates of the whole
grid, and the corner that takes the one to the other. Two puzzles are the same if these agree; how
they were found does not matter.
-/

namespace Crossword

/-- A trimmed grid with the words on it. -/
structure Puzzle where
  grid : Grid
  /-- The placed words, in the coordinates of the whole grid. -/
  layout : Layout
  /-- The square of the whole grid at which the trimmed one begins. -/
  corner : Position
  statistics : Statistics

namespace Puzzle

/-- Trims a grid and keeps the layout with it. -/
def ofSearch (grid : Grid) (layout : Layout) (statistics : Statistics) : Puzzle :=
  let (trimmed, corner) := grid.trim
  ⟨trimmed, layout, corner, statistics⟩

/-- The puzzle with other counters. -/
def withStatistics (p : Puzzle) (statistics : Statistics) : Puzzle := { p with statistics }

/-- Holds of puzzles with the same grid, layout and corner. -/
def same (p q : Puzzle) : Bool :=
  p.grid = q.grid && p.layout = q.layout && p.corner = q.corner

/-- Number of squares of the trimmed grid. -/
def area (p : Puzzle) : Nat := p.grid.area

/-- The earliest placement of a word on the trimmed grid. -/
def relativePlacement? (p : Puzzle) (word : String) : Option Placement :=
  (p.layout.find? word).bind fun placement => placement.minus? p.corner

/-- The squares of a word on the trimmed grid. -/
def relativeCells? (p : Puzzle) (word : String) : Option (List Position) :=
  (p.relativePlacement? word).map (·.cells)

/-- The words of one direction in reading order of their first squares; one without squares comes
first. -/
def wordsIn (p : Puzzle) (o : Orientation) : List PlacedWord :=
  (p.layout.entries.filter fun entry => entry.placement.orientation = o).mergeSort fun v w =>
    Position.leOption v.placement.start? w.placement.start?

/-- The words that read across. -/
def across (p : Puzzle) : List PlacedWord := p.wordsIn .across

/-- The words that read down. -/
def down (p : Puzzle) : List PlacedWord := p.wordsIn .down

/-- The squares of the trimmed grid at which words begin, in reading order. -/
def wordStarts (p : Puzzle) : List Position :=
  (distinct (p.layout.entries.filterMap fun entry =>
    entry.placement.start?.bind fun start => start.minus? p.corner)).mergeSort Position.le

theorem mem_wordsIn {p : Puzzle} {o : Orientation} {entry : PlacedWord} :
    entry ∈ p.wordsIn o ↔ entry ∈ p.layout.entries ∧ entry.placement.orientation = o := by
  simp [wordsIn]

theorem mem_wordStarts {p : Puzzle} {q : Position} :
    q ∈ p.wordStarts ↔ ∃ entry ∈ p.layout.entries, ∃ start,
      entry.placement.start? = some start ∧ start.minus? p.corner = some q := by
  simp [wordStarts, mem_distinct, Option.bind_eq_some_iff]

end Puzzle

end Crossword
