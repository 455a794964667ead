/-!
# Positions

A square's row and column, both counted from zero at the top left corner. Positions are ordered
row by row, each row from left to right.
-/

namespace Crossword

/-- The row and the column of a square. -/
structure Position where
  row : Nat
  col : Nat
  deriving DecidableEq, Hashable, Inhabited

namespace Position

/-- The top left corner. -/
def origin : Position := ⟨0, 0⟩

/-- Reading order: an earlier row first, within a row an earlier column. -/
protected def le (p q : Position) : Bool :=
  p.row < q.row || (p.row == q.row && p.col ≤ q.col)

/-- Reading order on squares that may be missing; a missing one comes first. -/
def leOption : Option Position → Option Position → Bool
  | none, _ => true
  | some _, none => false
  | some p, some q => p.le q

/-- The position as seen from another corner, or nothing if it lies above or left of it. -/
def minus? (p corner : Position) : Option Position :=
  if corner.row ≤ p.row ∧ corner.col ≤ p.col then
    some ⟨p.row - corner.row, p.col - corner.col⟩
  else
    none

/-- The position moved down and right by another one. -/
def plus (p corner : Position) : Position := ⟨p.row + corner.row, p.col + corner.col⟩

theorem le_iff {p q : Position} :
    p.le q = true ↔ p.row < q.row ∨ (p.row = q.row ∧ p.col ≤ q.col) := by
  simp [Position.le]

theorem le_refl (p : Position) : p.le p = true := by
  simp [le_iff]

theorem le_total (p q : Position) : (p.le q || q.le p) = true := by
  rw [Bool.or_eq_true, le_iff, le_iff]
  omega

theorem le_trans {p q r : Position} (hpq : p.le q = true) (hqr : q.le r = true) :
    p.le r = true := by
  rw [le_iff] at *
  omega

theorem le_antisymm {p q : Position} (hpq : p.le q = true) (hqp : q.le p = true) : p = q := by
  rw [le_iff] at hpq hqp
  obtain ⟨pr, pc⟩ := p
  obtain ⟨qr, qc⟩ := q
  simp only [mk.injEq] at *
  omega

theorem leOption_total (p q : Option Position) : (leOption p q || leOption q p) = true := by
  cases p with
  | none => simp [leOption]
  | some p =>
    cases q with
    | none => simp [leOption]
    | some q => exact le_total p q

theorem leOption_trans {p q r : Option Position} (hpq : leOption p q = true)
    (hqr : leOption q r = true) : leOption p r = true := by
  cases p with
  | none => simp [leOption]
  | some p =>
    cases q with
    | none => simp [leOption] at hpq
    | some q =>
      cases r with
      | none => simp [leOption] at hqr
      | some r => exact le_trans hpq hqr

theorem minus?_eq_some_iff {p corner q : Position} :
    p.minus? corner = some q ↔ p = q.plus corner := by
  obtain ⟨pr, pc⟩ := p
  obtain ⟨cr, cc⟩ := corner
  obtain ⟨qr, qc⟩ := q
  simp only [minus?, plus, mk.injEq]
  split
  · simp only [Option.some.injEq, mk.injEq]
    omega
  · simp only [reduceCtorEq, false_iff]
    omega

@[simp] theorem minus?_origin (p : Position) : p.minus? origin = some p := by
  rw [minus?_eq_some_iff]
  rfl

end Position

end Crossword
