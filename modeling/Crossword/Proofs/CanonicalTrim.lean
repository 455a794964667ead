import Crossword.Proofs.Trimming
import Mathlib

/-!
# Grids up to their place

What is left of a grid when it is trimmed are its letters without their place. A letter is told with
its row and its column (`Grid.written`), and letters can be moved by any number of rows and columns.
A grid is tight if no row or column at its edges could be cut off (`Grid.Tight`); the letters of a
tight grid cannot be moved to those of another one unless the two grids are equal (`Grid.Tight.eq`),
since each of them would have to begin in the first row and in the first column.

Main result: `Grid.trim_canonical`. Two grids have the same trimmed grid just if the letters of the
one are those of the other, moved as a whole.
-/

namespace Crossword

/-- A letter with its row and its column. -/
structure Written where
  row : Int
  col : Int
  letter : Char

namespace Written

/-- The same letter some rows further down and some columns further to the right. -/
def move (dr dc : Int) (w : Written) : Written := ⟨w.row + dr, w.col + dc, w.letter⟩

theorem move_zero : move 0 0 = id := by
  funext w
  simp [move]

theorem move_comp_move (dr dc dr' dc' : Int) :
    move dr' dc' ∘ move dr dc = move (dr + dr') (dc + dc') := by
  funext w
  simp [move, Int.add_assoc]

/-- Letters that are moved twice are moved by the sum. -/
theorem image_move_move (dr dc dr' dc' : Int) (s : Set Written) :
    move dr' dc' '' (move dr dc '' s) = move (dr + dr') (dc + dc') '' s := by
  rw [← Set.image_comp, move_comp_move]

/-- Letters that are moved back are where they were. -/
theorem image_move_neg (dr dc : Int) (s : Set Written) :
    move (-dr) (-dc) '' (move dr dc '' s) = s := by
  rw [image_move_move, Int.add_right_neg, Int.add_right_neg, move_zero, Set.image_id]

end Written

open Written

namespace Grid

/-- The letters of a grid with their rows and columns. -/
def written (g : Grid) : Set Written :=
  {w | ∃ p : Position, g.get? p = some (.letter w.letter) ∧ w.row = p.row ∧ w.col = p.col}

variable {g h : Grid} {p q : Position} {c : Char} {dr dc : Int}

/-! ## Moving letters -/

theorem mk_mem_written_iff : (⟨p.row, p.col, c⟩ : Written) ∈ g.written ↔
    g.get? p = some (.letter c) := by
  refine ⟨fun hw => ?_, fun hc => ⟨p, hc, rfl, rfl⟩⟩
  obtain ⟨q, hq, hrow, hcol⟩ := hw
  obtain ⟨pr, pc⟩ := p
  obtain ⟨qr, qc⟩ := q
  simp only [Nat.cast_inj] at hrow hcol
  subst hrow hcol
  exact hq

/-- A letter that is moved is a letter of the grid to which all are moved. -/
theorem exists_of_written_eq (hmove : h.written = move dr dc '' g.written)
    (hc : g.get? p = some (.letter c)) :
    ∃ q, h.get? q = some (.letter c) ∧ (q.row : Int) = p.row + dr ∧ (q.col : Int) = p.col + dc := by
  have hmem : move dr dc ⟨p.row, p.col, c⟩ ∈ h.written := by
    rw [hmove]
    exact Set.mem_image_of_mem _ (mk_mem_written_iff.mpr hc)
  obtain ⟨q, hq, hrow, hcol⟩ := hmem
  exact ⟨q, hq, hrow.symm, hcol.symm⟩

/-- The letters of the whole grid are those of the trimmed one, moved by the corner. -/
theorem written_eq_move_trim (g : Grid) :
    g.written = move g.trim.2.row g.trim.2.col '' g.trim.1.written := by
  ext w
  refine ⟨fun hw => ?_, fun hw => ?_⟩
  · obtain ⟨q, hq, hrow, hcol⟩ := hw
    obtain ⟨s, -, rfl⟩ := exists_lit_trim (lit_iff.mpr ⟨_, hq⟩)
    refine ⟨⟨s.row, s.col, w.letter⟩, mk_mem_written_iff.mpr (get?_trim_eq_letter_iff.mpr hq), ?_⟩
    rw [move, ← Nat.cast_add, ← Nat.cast_add]
    obtain ⟨row, col, letter⟩ := w
    exact congrArg₂ (Written.mk · · letter) hrow.symm hcol.symm
  · obtain ⟨v, ⟨s, hs, hrow, hcol⟩, rfl⟩ := hw
    refine ⟨s.plus g.trim.2, get?_trim_eq_letter_iff.mp hs, ?_, ?_⟩
    · simp [move, Position.plus, hrow]
    · simp [move, Position.plus, hcol]

/-! ## Tight grids -/

/-- The letters of a tight grid cannot be moved up or to the left, and where they are moved to there
is room for all of its rows and columns. -/
theorem Tight.room (hg : g.Tight) (hmove : h.written = move dr dc '' g.written) :
    (0 ≤ dr ∧ (g.rows : Int) + dr ≤ h.rows) ∧ 0 ≤ dc ∧ (g.cols : Int) + dc ≤ h.cols := by
  have hmoved : ∀ {p}, g.lit p = true → ∃ q : Position, h.Inside q ∧
      (q.row : Int) = p.row + dr ∧ (q.col : Int) = p.col + dc := by
    intro p hp
    obtain ⟨c, hc⟩ := lit_iff.mp hp
    obtain ⟨q, hq, hrow, hcol⟩ := exists_of_written_eq hmove hc
    exact ⟨q, inside_of_lit (lit_iff.mpr ⟨c, hq⟩), hrow, hcol⟩
  obtain ⟨⟨top, htop, htop0⟩, ⟨bottom, hbottom, hbottom1⟩, ⟨left, hleft, hleft0⟩,
    ⟨right, hright, hright1⟩⟩ := hg
  obtain ⟨q, -, hrow, -⟩ := hmoved htop
  obtain ⟨r, hr, hrow', -⟩ := hmoved hbottom
  obtain ⟨s, -, -, hcol⟩ := hmoved hleft
  obtain ⟨t, ht, -, hcol'⟩ := hmoved hright
  have hrows := hr.1
  have hcols := ht.2
  exact ⟨⟨by omega, by omega⟩, by omega, by omega⟩

/-- Grids of one size with the same letters are equal. -/
theorem eq_of_written_eq (hrows : g.rows = h.rows) (hcols : g.cols = h.cols)
    (hwritten : g.written = h.written) : g = h := by
  have hletters : ∀ p c, g.get? p = some (.letter c) ↔ h.get? p = some (.letter c) := by
    intro p c
    rw [← mk_mem_written_iff, ← mk_mem_written_iff, hwritten]
  refine Board.ext_get? hrows hcols fun p => ?_
  cases hg : g.get? p with
  | none =>
    rw [Board.get?_eq_none_iff, Board.Inside, hrows, hcols] at hg
    exact (Board.get?_eq_none_iff.mpr hg).symm
  | some s =>
    cases s with
    | letter c => exact ((hletters p c).mp hg).symm
    | blank =>
      have hin : g.Inside p := Board.isSome_get?_iff.mp (by rw [hg]; rfl)
      rw [Board.Inside, hrows, hcols] at hin
      obtain ⟨s, hs⟩ := Option.isSome_iff_exists.mp (Board.isSome_get?_iff.mpr hin)
      cases s with
      | blank => exact hs.symm
      | letter c => cases hg.symm.trans ((hletters p c).mpr hs)

/-- Tight grids whose letters differ by their place only are equal. -/
theorem Tight.eq (hg : g.Tight) (hh : h.Tight)
    (hmove : h.written = move dr dc '' g.written) : g = h := by
  have hback : g.written = move (-dr) (-dc) '' h.written := by
    rw [hmove, image_move_neg]
  obtain ⟨⟨hdown, hrows⟩, hright, hcols⟩ := hg.room hmove
  obtain ⟨⟨hup, hrows'⟩, hleft, hcols'⟩ := hh.room hback
  obtain rfl : dr = 0 := by omega
  obtain rfl : dc = 0 := by omega
  refine eq_of_written_eq (by omega) (by omega) ?_
  rw [hmove, move_zero, Set.image_id]

/-- The corner of a tight grid is its own. -/
theorem Tight.trim_eq (hg : g.Tight) : g.trim = (g, .origin) := by
  obtain ⟨top, htop, htop0⟩ := hg.top
  obtain ⟨left, hleft, hleft0⟩ := hg.left
  have hgrid : g.trim.1 = g := (tight_trim htop).eq hg (written_eq_move_trim g)
  obtain ⟨s, -, hs⟩ := exists_lit_trim htop
  obtain ⟨t, -, ht⟩ := exists_lit_trim hleft
  have hrow : s.row + g.trim.2.row = 0 := (congrArg Position.row hs).trans htop0
  have hcol : t.col + g.trim.2.col = 0 := (congrArg Position.col ht).trans hleft0
  have hcorner : g.trim.2 = .origin :=
    congrArg₂ Position.mk (Nat.eq_zero_of_add_eq_zero hrow).2 (Nat.eq_zero_of_add_eq_zero hcol).2
  exact Prod.ext hgrid hcorner

/-! ## Trimming -/

/-- Every letter lies in the rectangle that is cut out. -/
theorem holds_of_lit_trim (hq : g.lit q = true) :
    (g.trim.2.row ≤ q.row ∧ q.row < g.trim.2.row + g.trim.1.rows) ∧
      g.trim.2.col ≤ q.col ∧ q.col < g.trim.2.col + g.trim.1.cols := by
  obtain ⟨s, hs, rfl⟩ := exists_lit_trim hq
  obtain ⟨hrows, hcols⟩ := inside_of_lit hs
  simp only [Position.plus]
  omega

/-- On the rectangle that is cut out, blank or not, the grid reads as it did. -/
theorem get?_trim (hq : g.lit q = true) (hp : g.trim.1.Inside p) :
    g.trim.1.get? p = g.get? (p.plus g.trim.2) := by
  -- the last row and the last column of the rectangle hold letters, and so lie on the grid
  obtain ⟨-, ⟨bottom, hbottom, hbottom1⟩, -, ⟨right, hright, hright1⟩⟩ := tight_trim hq
  rw [lit_trim] at hbottom hright
  have hrow := (inside_of_lit hbottom).1
  have hcol := (inside_of_lit hright).2
  have hin : g.Inside (p.plus g.trim.2) := by
    simp only [Board.Inside, Position.plus] at hp hrow hcol ⊢
    omega
  obtain ⟨s, hs⟩ := Option.isSome_iff_exists.mp (Board.isSome_get?_iff.mpr hp)
  obtain ⟨t, ht⟩ := Option.isSome_iff_exists.mp (Board.isSome_get?_iff.mpr hin)
  have hcell := cellAt_trim g p
  rw [cellAt, cellAt, hs, ht] at hcell
  rw [hs, ht]
  exact congrArg some hcell

/-- A grid without letters is left as it is. -/
theorem trim_eq_of_blank (hblank : ∀ q, g.lit q = false) : g.trim = (g, .origin) := by
  unfold trim
  cases hb : g.bounds? with
  | none => rfl
  | some b =>
    obtain ⟨⟨htop, -⟩, -⟩ := bounds?_eq_some_iff.mp hb
    obtain ⟨col, hlit⟩ := mem_litRows.mp (List.mem_of_head? htop)
    exact absurd ((hblank _).symm.trans hlit) Bool.noConfusion

/-- **Trimming forgets the place, and nothing else.** If there is a letter on a grid, the trimmed
grid reads as the rectangle at its corner, which holds every letter; there is a letter in each of
its outermost rows and columns; and trimming it again changes nothing. Two grids with letters, of
any size, have the same trimmed grid just if the letters of the one are those of the other, all of
them moved by the same number of rows and columns. A grid without letters is left as it is. -/
theorem trim_canonical :
    (∀ g : Grid, (∃ q, g.lit q = true) →
      (∀ p, g.trim.1.Inside p → g.trim.1.get? p = g.get? (p.plus g.trim.2)) ∧
      (∀ q, g.lit q = true →
        (g.trim.2.row ≤ q.row ∧ q.row < g.trim.2.row + g.trim.1.rows) ∧
          g.trim.2.col ≤ q.col ∧ q.col < g.trim.2.col + g.trim.1.cols) ∧
      g.trim.1.Tight ∧ g.trim.1.trim = (g.trim.1, .origin)) ∧
    (∀ g h : Grid, (∃ q, g.lit q = true) → (∃ q, h.lit q = true) →
      (g.trim.1 = h.trim.1 ↔ ∃ dr dc : Int, h.written = move dr dc '' g.written)) ∧
    ∀ g : Grid, (∀ q, g.lit q = false) → g.trim = (g, .origin) := by
  refine ⟨fun g hg => ?_, fun g h hg hh => ⟨fun heq => ?_, fun hmove => ?_⟩, fun g hblank => ?_⟩
  · obtain ⟨q, hq⟩ := hg
    have htight := tight_trim hq
    exact ⟨fun p hp => get?_trim hq hp, fun q hq => holds_of_lit_trim hq, htight, htight.trim_eq⟩
  · -- from the letters of `g` to those of the common trimmed grid, and on to those of `h`
    have hback : h.trim.1.written =
        move (-g.trim.2.row) (-g.trim.2.col) '' g.written := by
      rw [← heq, written_eq_move_trim g, image_move_neg]
    rw [written_eq_move_trim h, hback, image_move_move]
    exact ⟨_, _, rfl⟩
  · obtain ⟨dr, dc, hmove⟩ := hmove
    obtain ⟨q, hq⟩ := hg
    obtain ⟨r, hr⟩ := hh
    have hback : h.trim.1.written =
        move (-h.trim.2.row) (-h.trim.2.col) '' h.written := by
      rw [written_eq_move_trim h, image_move_neg]
    rw [hmove, written_eq_move_trim g, image_move_move, image_move_move] at hback
    exact (tight_trim hq).eq (tight_trim hr) hback
  · exact trim_eq_of_blank hblank

/-- Three letters in a corner of a wide grid, and the same letters on a grid of their own: the
letters of the one are moved up and to the left. A blank grid stays whole. -/
theorem trim_canonical_of_three_letters :
    let g := (ofLines? [".....", "...AB", "...C."]).getD (blank 0 0)
    let h := (ofLines? ["AB", "C."]).getD (blank 0 0)
    (g.trim.1.get? ⟨1, 1⟩ = g.get? ⟨2, 4⟩ ∧ g.trim.1.Tight ∧ g.trim.1.trim = (g.trim.1, .origin)) ∧
    (∃ dr dc : Int, h.written = move dr dc '' g.written) ∧
    (blank 2 3).trim = (blank 2 3, .origin) := by
  intro g h
  have hg : ∃ q, g.lit q = true := ⟨⟨1, 3⟩, by subst g; cbv⟩
  have hh : ∃ q, h.lit q = true := ⟨⟨0, 0⟩, by subst h; cbv⟩
  have hcorner : g.trim.2 = ⟨1, 3⟩ := by subst g; cbv
  have hin : g.trim.1.Inside ⟨1, 1⟩ := by subst g; decide +kernel
  have hsame : g.trim.1 = h.trim.1 := by subst g h; cbv
  obtain ⟨hone, htwo, hnone⟩ := trim_canonical
  obtain ⟨hread, -, htight, hagain⟩ := hone g hg
  have hblank := hread ⟨1, 1⟩ hin
  rw [hcorner] at hblank
  exact ⟨⟨hblank, htight, hagain⟩, (htwo g h hg hh).mp hsame, hnone _ (lit_blank 2 3)⟩

end Grid

end Crossword
