/-!
# Cells

One square of a crossword grid: blank, or holding a letter. A letter is any Unicode scalar value,
the dot included, so a letter that prints like a blank is still a letter.
-/

namespace Crossword

/-- The contents of one square. -/
inductive Cell where
  /-- No letter yet. -/
  | blank
  /-- A written letter. -/
  | letter (c : Char)
  deriving DecidableEq, Inhabited

namespace Cell

/-- The character that stands for a blank square in text. -/
def blankMark : Char := '.'

/-- Holds of a square without a letter. -/
def isBlank : Cell → Bool
  | blank => true
  | letter _ => false

/-- The letter of the square, if it has one. -/
def letter? : Cell → Option Char
  | blank => none
  | letter c => some c

/-- A square accepts a letter if it is blank or holds that letter already. -/
def accepts : Cell → Char → Bool
  | blank, _ => true
  | letter c, d => c == d

/-- The square as it is printed. -/
def toChar : Cell → Char
  | blank => blankMark
  | letter c => c

/-- Reads a printed square; the mark of a blank is always read as a blank. -/
def ofChar (c : Char) : Cell :=
  if c = blankMark then blank else letter c

theorem isBlank_eq_true_iff {s : Cell} : s.isBlank = true ↔ s = blank := by
  cases s <;> simp [isBlank]

theorem accepts_eq_true_iff {s : Cell} {c : Char} :
    s.accepts c = true ↔ s = blank ∨ s = letter c := by
  cases s <;> simp [accepts]

theorem toChar_ofChar (c : Char) : (ofChar c).toChar = c := by
  unfold ofChar
  split
  · next h => simp [toChar, h]
  · rfl

/-- A printed square reads back, unless it is the letter that looks like a blank. -/
theorem ofChar_toChar {s : Cell} (h : s ≠ letter blankMark) : ofChar s.toChar = s := by
  cases s with
  | blank => simp [ofChar, toChar]
  | letter c =>
    have hc : c ≠ blankMark := fun e => h (e ▸ rfl)
    simp [ofChar, toChar, hc]

end Cell

end Crossword
