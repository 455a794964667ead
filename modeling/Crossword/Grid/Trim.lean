import Crossword.Grid

/-!
# Trimming

The smallest rectangle that holds every letter of a grid, and the grid cut down to it. The corner
of the rectangle is returned with the cut grid: subtracting it from a position of the whole grid
gives the position on the cut one. A grid without letters is left whole.
-/

namespace Crossword

/-- A rectangle given by its outermost rows and columns. -/
structure Bounds where
  top : Nat
  bottom : Nat
  left : Nat
  right : Nat
  deriving DecidableEq

namespace Bounds

/-- Height of the rectangle. -/
def rows (b : Bounds) : Nat := b.bottom - b.top + 1

/-- Width of the rectangle. -/
def cols (b : Bounds) : Nat := b.right - b.left + 1

/-- The top left square. -/
def corner (b : Bounds) : Position := ⟨b.top, b.left⟩

end Bounds

namespace Grid

/-- The ranks with a letter, from the top. -/
def litRanks (g : Grid) : Array (Array Cell) := g.ranks.filter rankLit

/-- Holds of a rank with a letter in a column. -/
def rankLitAt (col : Nat) (rank : Array Cell) : Bool :=
  match rank[col]? with
  | none => false
  | some s => !s.isBlank

/-- The columns with a letter, from the left. -/
def litCols (g : Grid) : List Nat :=
  let ranks := g.litRanks
  (List.range g.cols).filter fun col => ranks.any (rankLitAt col)

/-- The smallest rectangle with all letters, if there is a letter. -/
def bounds? (g : Grid) : Option Bounds := do
  let top ← g.litRows.head?
  let bottom ← g.litRows.getLast?
  let left ← g.litCols.head?
  let right ← g.litCols.getLast?
  return ⟨top, bottom, left, right⟩

/-- The part of the grid inside a rectangle. -/
def crop (g : Grid) (b : Bounds) : Grid :=
  Board.tabulate b.rows b.cols fun p => g.cellAt (p.plus b.corner)

/-- The grid cut down to its letters, and the corner where the cut begins. -/
def trim (g : Grid) : Grid × Position :=
  match g.bounds? with
  | none => (g, .origin)
  | some b => (g.crop b, b.corner)

/-- A row is listed if it has a letter. -/
theorem mem_litRows {g : Grid} {row : Nat} : row ∈ g.litRows ↔ ∃ col, g.lit ⟨row, col⟩ = true := by
  rw [litRows, List.mem_filter, List.mem_range, rowLit_iff]
  constructor
  · exact fun h => h.2
  · rintro ⟨col, h⟩
    exact ⟨(inside_of_lit h).1, col, h⟩

theorem rankLitAt_iff {col : Nat} {rank : Array Cell} :
    rankLitAt col rank = true ↔ ∃ c, rank[col]? = some (.letter c) := by
  unfold rankLitAt
  cases rank[col]? with
  | none => simp
  | some s => cases s <;> simp [Cell.isBlank]

/-- A column is listed if it has a letter. -/
theorem mem_litCols {g : Grid} {col : Nat} : col ∈ g.litCols ↔ ∃ row, g.lit ⟨row, col⟩ = true := by
  simp only [litCols, List.mem_filter, List.mem_range, Array.any_eq_true', litRanks,
    Array.mem_filter, rankLitAt_iff]
  constructor
  · rintro ⟨_, rank, ⟨hrank, _⟩, c, hc⟩
    obtain ⟨row, hrow⟩ := Array.mem_iff_getElem?.mp hrank
    exact ⟨row, lit_iff.mpr ⟨c, by rw [Board.get?_eq_bind, hrow]; exact hc⟩⟩
  · rintro ⟨row, h⟩
    obtain ⟨c, hc⟩ := lit_iff.mp h
    rw [Board.get?_eq_bind, Option.bind_eq_some_iff] at hc
    obtain ⟨rank, hrank, hc⟩ := hc
    have hany : rankLit rank = true :=
      Array.any_eq_true'.mpr ⟨.letter c, Array.mem_of_getElem? hc, rfl⟩
    exact ⟨(inside_of_lit h).2, rank, ⟨Array.mem_of_getElem? hrank, hany⟩, c, hc⟩

end Grid

end Crossword
