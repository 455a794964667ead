import Crossword.Board
import Crossword.Cell

/-!
# Grids

A grid is a board of cells. Its text has one line per row, a dot for a blank square; a list of
lines of one length is read back as a grid (`Grid.ofLines?`). A list of words needs a square grid
with twice the length of the longest word on each side.
-/

namespace Crossword

/-- A rectangle of cells. -/
abbrev Grid := Board Cell

namespace Grid

/-- The side of a word list's grid is this many times its longest word. -/
def sideFactor : Nat := 2

/-- A grid without letters. -/
def blank (rows cols : Nat) : Grid := Board.fill rows cols .blank

/-- The number of letters in the longest word; zero if there is none. -/
def longest (words : List String) : Nat :=
  (words.map String.length).foldl max 0

/-- The side of the square grid for a list of words. -/
def sideFor (words : List String) : Nat := longest words * sideFactor

/-- The cell at a position; off the grid a blank. -/
@[inline] def cellAt (g : Grid) (p : Position) : Cell := (g.get? p).getD .blank

/-- Holds where there is a letter. -/
@[inline] def lit (g : Grid) (p : Position) : Bool := !(g.cellAt p).isBlank

/-- Holds of a rank with a letter. -/
def rankLit (rank : Array Cell) : Bool := rank.any fun s => !s.isBlank

/-- Holds of the rows with a letter. -/
def rowLit (g : Grid) (row : Nat) : Bool :=
  match g.ranks[row]? with
  | none => false
  | some rank => rankLit rank

/-- The rows with a letter, from the top. -/
def litRows (g : Grid) : List Nat := (List.range g.rows).filter g.rowLit

/-- The squares with a letter, in reading order. -/
def litSquares (g : Grid) : List Position :=
  g.litRows.flatMap fun r => ((List.range g.cols).map (Position.mk r)).filter g.lit

/-- Number of letters on the grid. -/
def letterCount (g : Grid) : Nat := g.litSquares.length

/-- Holds of a grid without letters. -/
def isBlank (g : Grid) : Bool := g.all Cell.isBlank

/-- The letters of one row as printed. -/
def line (g : Grid) (row : Nat) : List Char :=
  (List.range g.cols).map fun col => (g.cellAt ⟨row, col⟩).toChar

/-- The text of one row of the grid. -/
def rowText? (g : Grid) (row : Nat) : Option String :=
  if row < g.rows then some (String.ofList (g.line row)) else none

/-- The rows of the grid from the top as text. -/
def lines (g : Grid) : List String :=
  (List.range g.rows).map fun row => String.ofList (g.line row)

/-- The grid as text, its rows separated by line ends. -/
def toText (g : Grid) : String := "\n".intercalate g.lines

/-- Reads a grid from its rows, a dot being a blank; they must be of one length. -/
def ofLines? (rows : List String) : Option Grid :=
  let cols := (rows.head?.map String.length).getD 0
  if rows.all fun row => row.length = cols then
    let letters := rows.toArray.map fun row => row.toList.toArray
    some <| Board.tabulate rows.length cols fun p =>
      ((letters[p.row]?.bind fun row => row[p.col]?).map Cell.ofChar).getD .blank
  else
    none

@[simp] theorem cellAt_blank (rows cols : Nat) (p : Position) :
    (blank rows cols).cellAt p = .blank := by
  simp only [cellAt, blank, Board.get?_fill]
  split <;> rfl

theorem lit_blank (rows cols : Nat) (p : Position) : (blank rows cols).lit p = false := by
  simp [lit, Cell.isBlank]

/-- A lit square lies on the grid. -/
theorem inside_of_lit {g : Grid} {p : Position} (h : g.lit p = true) : g.Inside p := by
  rw [← Board.isSome_get?_iff]
  cases e : g.get? p with
  | none => simp [lit, cellAt, e, Cell.isBlank] at h
  | some _ => rfl

theorem lit_iff {g : Grid} {p : Position} : g.lit p = true ↔ ∃ c, g.get? p = some (.letter c) := by
  simp only [lit, cellAt]
  cases e : g.get? p with
  | none => simp [Cell.isBlank]
  | some s => cases s <;> simp [Cell.isBlank]

theorem rowLit_iff {g : Grid} {row : Nat} :
    g.rowLit row = true ↔ ∃ col, g.lit ⟨row, col⟩ = true := by
  simp only [lit_iff, Board.get?_eq_bind, rowLit]
  cases g.ranks[row]? with
  | none => simp
  | some rank =>
    simp only [rankLit, Array.any_eq_true', Option.bind_some]
    constructor
    · rintro ⟨s, hs, h⟩
      obtain ⟨col, hcol⟩ := Array.mem_iff_getElem?.mp hs
      cases s with
      | blank => simp [Cell.isBlank] at h
      | letter c => exact ⟨col, c, hcol⟩
    · rintro ⟨col, c, h⟩
      exact ⟨.letter c, Array.mem_of_getElem? h, rfl⟩

/-- The squares with a letter are found among all squares in reading order. -/
theorem litSquares_eq (g : Grid) : g.litSquares = g.positions.filter g.lit := by
  simp only [litSquares, litRows, Board.positions, Board.positionsOf, List.filter_flatMap]
  induction List.range g.rows with
  | nil => rfl
  | cons r rest ih =>
    rw [List.filter_cons, List.flatMap_cons]
    split
    · rw [List.flatMap_cons, ih]
    · next h =>
      have hnone : ((List.range g.cols).map (Position.mk r)).filter g.lit = [] := by
        rw [List.filter_eq_nil_iff]
        intro p hp hlit
        obtain ⟨c, _, rfl⟩ := List.mem_map.mp hp
        exact h (rowLit_iff.mpr ⟨c, hlit⟩)
      rw [hnone, List.nil_append, ih]

theorem mem_litSquares {g : Grid} {p : Position} : p ∈ g.litSquares ↔ g.lit p = true := by
  rw [litSquares_eq, List.mem_filter, Board.mem_positions]
  exact ⟨fun h => h.2, fun h => ⟨inside_of_lit h, h⟩⟩

end Grid

end Crossword
