import Crossword.Grid.Trim
import Mathlib.Data.List.Nodup
import Mathlib.Data.List.Perm.Basic

/-!
# What trimming keeps

The trimmed grid reads as the whole one does from the corner on (`Grid.cellAt_trim`): the rectangle
that is cut out holds every letter (`Bounds.Holds`), and outside of it there is nothing to read on
either grid. So the letters of the two grids correspond, and there are as many of them
(`Grid.letterCount_trim`). No row or column is left that could still be cut off
(`Grid.tight_trim`).
-/

namespace Crossword

/-- Numbers in rising order lie between the first and the last of them. -/
theorem between_of_mem {l : List Nat} (hl : l.Pairwise (· < ·)) {first last n : Nat}
    (hfirst : l.head? = some first) (hlast : l.getLast? = some last) (hn : n ∈ l) :
    first ≤ n ∧ n ≤ last := by
  refine ⟨?_, ?_⟩
  · obtain ⟨rest, rfl⟩ := List.head?_eq_some_iff.mp hfirst
    rcases List.mem_cons.mp hn with rfl | hrest
    · exact Nat.le_refl _
    · exact Nat.le_of_lt (List.rel_of_pairwise_cons hl hrest)
  · obtain ⟨rest, rfl⟩ := List.getLast?_eq_some_iff.mp hlast
    rcases List.mem_append.mp hn with hrest | hlast
    · exact Nat.le_of_lt ((List.pairwise_append.mp hl).2.2 n hrest last (List.mem_singleton_self _))
    · exact Nat.le_of_eq (List.mem_singleton.mp hlast)

/-- Holds of the squares of a rectangle. -/
def Bounds.Holds (b : Bounds) (p : Position) : Prop :=
  (b.top ≤ p.row ∧ p.row ≤ b.bottom) ∧ b.left ≤ p.col ∧ p.col ≤ b.right

/-- Each square of a board comes once in reading order. -/
theorem Board.nodup_positions {α : Type} (b : Board α) : b.positions.Nodup := by
  refine List.nodup_flatMap.mpr ⟨fun r _ => ?_, ?_⟩
  · exact List.nodup_range.map fun c d h => congrArg Position.col h
  · refine List.nodup_range.imp fun hne p hp hq => hne ?_
    obtain ⟨c, -, rfl⟩ := List.mem_map.mp hp
    obtain ⟨d, -, heq⟩ := List.mem_map.mp hq
    exact (congrArg Position.row heq).symm

namespace Grid

variable {g : Grid} {b : Bounds} {p q : Position}

/-! ## The rectangle -/

theorem pairwise_litRows (g : Grid) : g.litRows.Pairwise (· < ·) :=
  List.pairwise_lt_range.filter _

theorem pairwise_litCols (g : Grid) : g.litCols.Pairwise (· < ·) :=
  List.pairwise_lt_range.filter _

theorem bounds?_eq_some_iff : g.bounds? = some b ↔
    (g.litRows.head? = some b.top ∧ g.litRows.getLast? = some b.bottom) ∧
      g.litCols.head? = some b.left ∧ g.litCols.getLast? = some b.right := by
  obtain ⟨top, bottom, left, right⟩ := b
  simp only [bounds?, Option.bind_eq_bind, Option.bind_eq_some_iff, Option.pure_def,
    Option.some.injEq, Bounds.mk.injEq]
  refine ⟨?_, ?_⟩
  · rintro ⟨_, htop, _, hbottom, _, hleft, _, hright, rfl, rfl, rfl, rfl⟩
    exact ⟨⟨htop, hbottom⟩, hleft, hright⟩
  · rintro ⟨⟨htop, hbottom⟩, hleft, hright⟩
    exact ⟨_, htop, _, hbottom, _, hleft, _, hright, rfl, rfl, rfl, rfl⟩

/-- The rectangle holds every letter. -/
theorem holds_of_lit (hb : g.bounds? = some b) (hp : g.lit p = true) : b.Holds p := by
  obtain ⟨⟨htop, hbottom⟩, hleft, hright⟩ := bounds?_eq_some_iff.mp hb
  exact ⟨between_of_mem g.pairwise_litRows htop hbottom (mem_litRows.mpr ⟨p.col, hp⟩),
    between_of_mem g.pairwise_litCols hleft hright (mem_litCols.mpr ⟨p.row, hp⟩)⟩

/-- Where there is a letter there is a rectangle. -/
theorem exists_bounds_of_lit (hp : g.lit p = true) : ∃ b, g.bounds? = some b := by
  have hrow : g.litRows ≠ [] := List.ne_nil_of_mem (mem_litRows.mpr ⟨p.col, hp⟩)
  have hcol : g.litCols ≠ [] := List.ne_nil_of_mem (mem_litCols.mpr ⟨p.row, hp⟩)
  exact ⟨⟨_, _, _, _⟩, bounds?_eq_some_iff.mpr
    ⟨⟨List.head?_eq_some_head hrow, List.getLast?_eq_some_getLast hrow⟩,
      List.head?_eq_some_head hcol, List.getLast?_eq_some_getLast hcol⟩⟩

/-! ## What is read on the trimmed grid -/

theorem cellAt_eq_blank_iff : g.cellAt p = .blank ↔ g.lit p = false := by
  unfold lit
  rw [Bool.not_eq_false', Cell.isBlank_eq_true_iff]

theorem cellAt_crop : (g.crop b).cellAt p =
    if p.row < b.rows ∧ p.col < b.cols then g.cellAt (p.plus b.corner) else .blank := by
  rw [cellAt, crop, Board.get?_tabulate]
  split
  · rfl
  · rfl

/-- The trimmed grid reads as the whole one does from the corner on. -/
theorem cellAt_trim (g : Grid) (p : Position) :
    g.trim.1.cellAt p = g.cellAt (p.plus g.trim.2) := by
  unfold trim
  cases hb : g.bounds? with
  | none => rfl
  | some b =>
    show (g.crop b).cellAt p = g.cellAt (p.plus b.corner)
    rw [cellAt_crop]
    split
    · rfl
    · next hout =>
      -- a letter there would lie in the rectangle
      symm
      rw [cellAt_eq_blank_iff]
      by_contra hlit
      have hheld := holds_of_lit hb (Bool.of_not_eq_false hlit)
      unfold Bounds.Holds Position.plus Bounds.corner at hheld
      unfold Bounds.rows Bounds.cols at hout
      simp only at hheld
      omega

theorem lit_trim (g : Grid) (p : Position) : g.trim.1.lit p = g.lit (p.plus g.trim.2) := by
  unfold lit
  rw [cellAt_trim]

/-- No letter lies above or left of the corner. -/
theorem exists_plus_of_lit (hq : g.lit q = true) : ∃ p : Position, p.plus g.trim.2 = q := by
  obtain ⟨b, hb⟩ := exists_bounds_of_lit hq
  obtain ⟨⟨htop, -⟩, hleft, -⟩ := holds_of_lit hb hq
  refine ⟨⟨q.row - b.top, q.col - b.left⟩, ?_⟩
  unfold trim
  rw [hb]
  show Position.mk (q.row - b.top + b.top) (q.col - b.left + b.left) = q
  rw [Nat.sub_add_cancel htop, Nat.sub_add_cancel hleft]

/-- A letter of the whole grid is one of the trimmed grid. -/
theorem exists_lit_trim (hq : g.lit q = true) :
    ∃ s, g.trim.1.lit s = true ∧ s.plus g.trim.2 = q := by
  obtain ⟨s, rfl⟩ := exists_plus_of_lit hq
  exact ⟨s, (lit_trim g s).trans hq, rfl⟩

theorem get?_eq_letter_iff {c : Char} : g.get? p = some (.letter c) ↔ g.cellAt p = .letter c := by
  unfold cellAt
  cases g.get? p with
  | none => simp
  | some s => simp

theorem get?_trim_eq_letter_iff {c : Char} :
    g.trim.1.get? p = some (.letter c) ↔ g.get? (p.plus g.trim.2) = some (.letter c) := by
  rw [get?_eq_letter_iff, get?_eq_letter_iff, cellAt_trim]

theorem trim_eq (hb : g.bounds? = some b) : g.trim = (g.crop b, b.corner) := by
  unfold trim
  rw [hb]

/-- Holds of a grid with a letter in each of its outermost rows and columns. -/
structure Tight (g : Grid) : Prop where
  top : ∃ p, g.lit p = true ∧ p.row = 0
  bottom : ∃ p, g.lit p = true ∧ p.row + 1 = g.rows
  left : ∃ p, g.lit p = true ∧ p.col = 0
  right : ∃ p, g.lit p = true ∧ p.col + 1 = g.cols

/-- Nothing is left to cut off: where there is a letter, the trimmed grid is tight. -/
theorem tight_trim (hq : g.lit q = true) : g.trim.1.Tight := by
  obtain ⟨b, hb⟩ := exists_bounds_of_lit hq
  obtain ⟨⟨htop, hbottom⟩, hleft, hright⟩ := bounds?_eq_some_iff.mp hb
  have htrim := trim_eq hb
  have hcorner : g.trim.2 = b.corner := congrArg Prod.snd htrim
  have hrows : g.trim.1.rows = b.bottom - b.top + 1 := by
    rw [htrim]
    exact Board.rows_tabulate ..
  have hcols : g.trim.1.cols = b.right - b.left + 1 := by
    rw [htrim]
    exact Board.cols_tabulate ..
  have hplace : ∀ {row col : Nat}, g.lit ⟨row, col⟩ = true → ∃ s, g.trim.1.lit s = true ∧
      s.row + b.top = row ∧ s.col + b.left = col := by
    intro row col hlit
    obtain ⟨s, hs, hplus⟩ := exists_lit_trim hlit
    rw [hcorner] at hplus
    exact ⟨s, hs, Position.mk.inj hplus⟩
  refine ⟨?_, ?_, ?_, ?_⟩
  · obtain ⟨col, hlit⟩ := mem_litRows.mp (List.mem_of_head? htop)
    obtain ⟨s, hs, hrow, -⟩ := hplace hlit
    exact ⟨s, hs, by omega⟩
  · obtain ⟨col, hlit⟩ := mem_litRows.mp (List.mem_of_getLast? hbottom)
    obtain ⟨s, hs, hrow, -⟩ := hplace hlit
    exact ⟨s, hs, by omega⟩
  · obtain ⟨row, hlit⟩ := mem_litCols.mp (List.mem_of_head? hleft)
    obtain ⟨s, hs, -, hcol⟩ := hplace hlit
    exact ⟨s, hs, by omega⟩
  · obtain ⟨row, hlit⟩ := mem_litCols.mp (List.mem_of_getLast? hright)
    obtain ⟨s, hs, -, hcol⟩ := hplace hlit
    exact ⟨s, hs, by omega⟩

/-! ## The number of letters -/

theorem nodup_litSquares (g : Grid) : g.litSquares.Nodup := by
  rw [litSquares_eq]
  exact (Board.nodup_positions g).filter _

theorem plus_injective (corner : Position) : Function.Injective (Position.plus · corner) := by
  intro p q h
  obtain ⟨pr, pc⟩ := p
  obtain ⟨qr, qc⟩ := q
  unfold Position.plus at h
  simp only [Position.mk.injEq] at h ⊢
  omega

/-- The letters of the trimmed grid are those of the whole one, seen from the corner. -/
theorem litSquares_trim_perm (g : Grid) :
    (g.trim.1.litSquares.map (·.plus g.trim.2)).Perm g.litSquares := by
  rw [List.perm_ext_iff_of_nodup ((nodup_litSquares _).map (plus_injective _)) (nodup_litSquares g)]
  intro q
  rw [List.mem_map, mem_litSquares]
  refine ⟨?_, ?_⟩
  · intro hex
    obtain ⟨p, hp, rfl⟩ := hex
    rw [mem_litSquares, lit_trim] at hp
    exact hp
  · intro hq
    obtain ⟨p, rfl⟩ := exists_plus_of_lit hq
    exact ⟨p, mem_litSquares.mpr ((lit_trim g p).trans hq), rfl⟩

/-- Trimming keeps the number of letters. -/
theorem letterCount_trim (g : Grid) : g.trim.1.letterCount = g.letterCount := by
  have hlength := (litSquares_trim_perm g).length_eq
  rw [List.length_map] at hlength
  exact hlength

end Grid

end Crossword
