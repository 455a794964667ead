import Crossword.Error
import Crossword.Grid
import Crossword.Layout
import Std.Data.HashSet

/-!
# Consistency of a layout

A layout agrees with a grid if each word is written on a straight run of its own length, and each
letter of the grid belongs to a word. `Layout.check` looks at the words in the order in which they
were placed, then at the grid row by row, and reports the first disagreement with its square.
-/

namespace Crossword

namespace PlacedWord

/-- Holds if the word's squares are a straight run of its length. -/
def isStraight (entry : PlacedWord) : Bool :=
  entry.placement.length = entry.word.length && entry.placement.isContiguous

/-- Reports the word's first disagreement with a grid. -/
def check (entry : PlacedWord) (g : Grid) : Except Error Unit :=
  if entry.isStraight then
    match entry.lettered.find? fun (p, letter) => g.get? p ≠ some (.letter letter) with
    | none => .ok ()
    | some (p, letter) =>
      .error (.invariantViolation p.row p.col (.wrongLetter letter entry.word))
  else
    let start := entry.placement.start?.getD .origin
    .error (.invariantViolation start.row start.col (.notStraight entry.word))

end PlacedWord

namespace Layout

/-- The squares of the layout's words, as a set. -/
def owned (l : Layout) : Std.HashSet Position :=
  l.squares.foldl (fun found p => found.insert p) ∅

/-- Reports the first letter of a grid, row by row, that belongs to no word. -/
def checkOwned (l : Layout) (g : Grid) : Except Error Unit :=
  let owned := l.owned
  match g.litSquares.find? fun p => !owned.contains p with
  | none => .ok ()
  | some p => .error (.invariantViolation p.row p.col .unowned)

/-- Reports the first disagreement between a layout and a grid. -/
def check (l : Layout) (g : Grid) : Except Error Unit := do
  l.entries.forM fun entry => entry.check g
  l.checkOwned g

/-- A fold of insertions adds the items of the list. -/
theorem mem_foldl_insert {squares : List Position} {found : Std.HashSet Position} {p : Position} :
    p ∈ squares.foldl (fun found p => found.insert p) found ↔ p ∈ found ∨ p ∈ squares := by
  induction squares generalizing found with
  | nil => simp
  | cons q rest ih =>
    rw [List.foldl_cons, ih, Std.HashSet.mem_insert, beq_iff_eq, List.mem_cons, @eq_comm _ q p,
      or_assoc, or_left_comm]

/-- The owned squares are those of the layout's words. -/
theorem mem_owned {l : Layout} {p : Position} : p ∈ l.owned ↔ p ∈ l.squares := by
  simp [owned, mem_foldl_insert]

/-- No letter is reported if each one belongs to a word. -/
theorem checkOwned_eq_ok_iff {l : Layout} {g : Grid} :
    l.checkOwned g = .ok () ↔ ∀ p, g.lit p = true → p ∈ l.squares := by
  simp only [checkOwned]
  split
  · next h =>
    simp only [List.find?_eq_none, Grid.mem_litSquares, Bool.not_eq_true', Bool.not_eq_false,
      Std.HashSet.contains_iff_mem, mem_owned] at h
    exact ⟨fun _ => h, fun _ => rfl⟩
  · next p h =>
    simp only [reduceCtorEq, false_iff]
    intro hall
    have hlit := Grid.mem_litSquares.mp (List.mem_of_find?_eq_some h)
    have hnot := List.find?_some h
    simp [mem_owned, hall p hlit] at hnot

end Layout

end Crossword
