import Crossword.Position

/-!
# Boards

A rectangle of squares with one value each, stored rank by rank. The ranks of a filled board are
one and the same array until they are written to; where a row has no squares, no rank is stored.
Every operation is described through `Board.get?`: what it reads after `fill`, `tabulate` and `set`.
Two boards of the same size that read the same everywhere are equal (`Board.ext_get?`).
-/

namespace Crossword

/-- A rectangle of values. -/
structure Board (α : Type) where
  rows : Nat
  cols : Nat
  /-- The values, an array for each row if there are columns. -/
  ranks : Array (Array α)
  size_ranks : ranks.size = if cols = 0 then 0 else rows
  size_of_mem : ∀ rank ∈ ranks, rank.size = cols
  deriving DecidableEq

namespace Board

variable {α : Type}

/-- The squares of a rectangle in reading order. -/
def positionsOf (rows cols : Nat) : List Position :=
  (List.range rows).flatMap fun r => (List.range cols).map fun c => ⟨r, c⟩

/-- The board's squares in reading order. -/
def positions (b : Board α) : List Position := positionsOf b.rows b.cols

/-- Number of squares. -/
def area (b : Board α) : Nat := b.rows * b.cols

/-- Holds of the positions on the board. -/
def Inside (b : Board α) (p : Position) : Prop := p.row < b.rows ∧ p.col < b.cols

instance (b : Board α) (p : Position) : Decidable (b.Inside p) :=
  inferInstanceAs (Decidable (_ ∧ _))

/-- The value at a position, or nothing off the board. -/
@[inline] def get? (b : Board α) (p : Position) : Option α :=
  match b.ranks[p.row]? with
  | none => none
  | some rank => rank[p.col]?

/-- A written rank is as long as it was. -/
private theorem size_of_mem_modify {ranks : Array (Array α)} {cols row col : Nat} {a : α}
    (h : ∀ rank ∈ ranks, rank.size = cols) :
    ∀ rank ∈ ranks.modify row fun rank => rank.setIfInBounds col a, rank.size = cols := by
  intro rank hr
  obtain ⟨i, hi⟩ := Array.mem_iff_getElem?.mp hr
  rw [Array.getElem?_modify] at hi
  split at hi
  · obtain ⟨old, hold, rfl⟩ := Option.map_eq_some_iff.mp hi
    rw [Array.size_setIfInBounds]
    exact h old (Array.mem_of_getElem? hold)
  · exact h rank (Array.mem_of_getElem? hi)

/-- Writes a value; off the board nothing changes. -/
def set (b : Board α) (p : Position) (a : α) : Board α :=
  { b with
    ranks := b.ranks.modify p.row fun rank => rank.setIfInBounds p.col a
    size_ranks := by rw [Array.size_modify, b.size_ranks]
    size_of_mem := size_of_mem_modify b.size_of_mem }

/-- A board with the same value everywhere. -/
def fill (rows cols : Nat) (a : α) : Board α where
  rows := rows
  cols := cols
  ranks := if rows * cols = 0 then #[] else Array.replicate rows (Array.replicate cols a)
  size_ranks := by
    split
    · next h =>
      rcases Nat.mul_eq_zero.mp h with hr | hc
      · simp [hr]
      · simp [hc]
    · next h =>
      rw [if_neg fun hc => h (Nat.mul_eq_zero.mpr (.inr hc)), Array.size_replicate]
  size_of_mem := by
    intro rank h
    split at h
    · simp at h
    · rw [Array.eq_of_mem_replicate h, Array.size_replicate]

/-- The board with the given value at each position. -/
def tabulate (rows cols : Nat) (f : Position → α) : Board α where
  rows := rows
  cols := cols
  ranks :=
    if cols = 0 then #[]
    else Array.ofFn fun r : Fin rows => Array.ofFn fun c : Fin cols => f ⟨r, c⟩
  size_ranks := by split <;> simp
  size_of_mem := by
    intro rank h
    split at h
    · simp at h
    · obtain ⟨r, rfl⟩ := Array.mem_ofFn.mp h
      exact Array.size_ofFn

/-- Holds if every value passes a test. -/
def all (b : Board α) (test : α → Bool) : Bool := b.ranks.all fun rank => rank.all test

@[simp] theorem mem_positionsOf {rows cols : Nat} {p : Position} :
    p ∈ positionsOf rows cols ↔ p.row < rows ∧ p.col < cols := by
  simp only [positionsOf, List.mem_flatMap, List.mem_map, List.mem_range]
  constructor
  · rintro ⟨r, hr, c, hc, rfl⟩
    exact ⟨hr, hc⟩
  · rintro ⟨hr, hc⟩
    exact ⟨p.row, hr, p.col, hc, rfl⟩

theorem mem_positions {b : Board α} {p : Position} : p ∈ b.positions ↔ b.Inside p :=
  mem_positionsOf

@[simp] theorem rows_set (b : Board α) (p : Position) (a : α) : (b.set p a).rows = b.rows := rfl

@[simp] theorem cols_set (b : Board α) (p : Position) (a : α) : (b.set p a).cols = b.cols := rfl

@[simp] theorem inside_set {b : Board α} {p q : Position} {a : α} :
    (b.set p a).Inside q ↔ b.Inside q := .rfl

@[simp] theorem rows_fill (rows cols : Nat) (a : α) : (fill rows cols a).rows = rows := rfl

@[simp] theorem cols_fill (rows cols : Nat) (a : α) : (fill rows cols a).cols = cols := rfl

@[simp] theorem rows_tabulate (rows cols : Nat) (f : Position → α) :
    (tabulate rows cols f).rows = rows := rfl

@[simp] theorem cols_tabulate (rows cols : Nat) (f : Position → α) :
    (tabulate rows cols f).cols = cols := rfl

/-- Where there are squares, each row has its rank. -/
theorem row_lt_size_iff {b : Board α} {row col : Nat} (h : col < b.cols) :
    row < b.ranks.size ↔ row < b.rows := by
  rw [b.size_ranks, if_neg (by omega)]

/-- What is read lies in the rank of its row. -/
theorem get?_eq_bind (b : Board α) (p : Position) :
    b.get? p = b.ranks[p.row]?.bind (·[p.col]?) := by
  unfold get?
  cases b.ranks[p.row]? <;> rfl

/-- A rank of the board belongs to a row, and is as long as the rows are. -/
theorem rank_inside {b : Board α} {row : Nat} {rank : Array α} (h : b.ranks[row]? = some rank) :
    rank.size = b.cols ∧ (0 < b.cols → row < b.rows) := by
  obtain ⟨hr, _⟩ := Array.getElem?_eq_some_iff.mp h
  exact ⟨b.size_of_mem rank (Array.mem_of_getElem? h), fun hc => (row_lt_size_iff hc).mp hr⟩

theorem get?_eq_none_iff {b : Board α} {p : Position} : b.get? p = none ↔ ¬ b.Inside p := by
  rw [get?_eq_bind]
  cases h : b.ranks[p.row]? with
  | none =>
    simp only [Option.bind_none, true_iff]
    intro hin
    have := (row_lt_size_iff hin.2).mpr hin.1
    exact absurd (Array.getElem?_eq_none_iff.mp h) (by omega)
  | some rank =>
    obtain ⟨hsize, hrow⟩ := rank_inside h
    rw [Option.bind_some, Array.getElem?_eq_none_iff, hsize]
    constructor
    · intro hc hin
      exact absurd hin.2 (by omega)
    · intro hn
      exact Nat.le_of_not_lt fun hc => hn ⟨hrow (by omega), hc⟩

theorem isSome_get?_iff {b : Board α} {p : Position} : (b.get? p).isSome ↔ b.Inside p := by
  rw [← Option.ne_none_iff_isSome, ne_eq, get?_eq_none_iff, Decidable.not_not]

/-- Each square of a filled board holds the filling. -/
theorem get?_fill {rows cols : Nat} {a : α} {p : Position} :
    (fill rows cols a).get? p = if p.row < rows ∧ p.col < cols then some a else none := by
  rw [get?_eq_bind]
  simp only [fill]
  split
  · next h =>
    rw [if_neg]
    · simp
    · intro hin
      exact absurd (Nat.mul_pos (by omega : 0 < rows) (by omega : 0 < cols)) (by omega)
  · by_cases hr : p.row < rows <;> simp [hr, Array.getElem?_replicate]

/-- A tabulated board reads the function. -/
theorem get?_tabulate {rows cols : Nat} {f : Position → α} {p : Position} :
    (tabulate rows cols f).get? p = if p.row < rows ∧ p.col < cols then some (f p) else none := by
  rw [get?_eq_bind]
  simp only [tabulate]
  split
  · next h => simp [h]
  · by_cases hr : p.row < rows <;> simp [hr, Array.getElem?_ofFn]

/-- What is read after a write. -/
theorem get?_set {b : Board α} {p q : Position} {a : α} :
    (b.set p a).get? q = if p = q ∧ b.Inside p then some a else b.get? q := by
  have hread : (b.set p a).get? q =
      if p.row = q.row then (b.ranks[q.row]?).bind fun rank => (rank.setIfInBounds p.col a)[q.col]?
      else b.get? q := by
    rw [get?_eq_bind, get?_eq_bind]
    simp only [set, Array.getElem?_modify]
    split
    · cases b.ranks[q.row]? <;> rfl
    · rfl
  obtain ⟨pr, pc⟩ := p
  obtain ⟨qr, qc⟩ := q
  rw [hread]
  simp only [Position.mk.injEq]
  by_cases hr : pr = qr
  · subst hr
    rw [if_pos rfl]
    by_cases hin : b.Inside ⟨pr, pc⟩
    · have hlt : pr < b.ranks.size := (row_lt_size_iff hin.2).mpr hin.1
      have hc : pc < b.ranks[pr].size := by
        rw [b.size_of_mem _ (Array.getElem_mem hlt)]; exact hin.2
      rw [get?_eq_bind, Array.getElem?_eq_getElem hlt, Option.bind_some, Option.bind_some,
        Array.getElem?_setIfInBounds]
      by_cases he : pc = qc
      · subst he
        simp [hin, hc]
      · simp [he]
    · rw [get?_eq_bind]
      cases h : b.ranks[pr]? with
      | none => simp [hin]
      | some rank =>
        obtain ⟨hsize, hrow⟩ := rank_inside h
        have hc : rank.size ≤ pc := by
          rw [hsize]
          exact Nat.le_of_not_lt fun hc => hin ⟨hrow (by omega), hc⟩
        rw [Option.bind_some, Array.setIfInBounds_eq_of_size_le hc]
        simp [hin]
  · simp [hr]

/-- Boards of one size that read the same everywhere are equal. -/
theorem ext_get? {a b : Board α} (hrows : a.rows = b.rows) (hcols : a.cols = b.cols)
    (h : ∀ p, a.get? p = b.get? p) : a = b := by
  have hranks : a.ranks = b.ranks := by
    apply Array.ext (by rw [a.size_ranks, b.size_ranks, hrows, hcols])
    intro r hra hrb
    have hsize : a.ranks[r].size = b.ranks[r].size := by
      rw [a.size_of_mem _ (Array.getElem_mem hra), b.size_of_mem _ (Array.getElem_mem hrb), hcols]
    apply Array.ext hsize
    intro c hca hcb
    have hp := h ⟨r, c⟩
    rw [get?_eq_bind, get?_eq_bind] at hp
    simpa [hra, hrb, hca, hcb] using hp
  obtain ⟨ar, ac, as, ha, ha'⟩ := a
  obtain ⟨br, bc, bs, hb, hb'⟩ := b
  simp only at hrows hcols hranks
  subst hrows hcols hranks
  rfl

/-- Every value of a board passes a test if every value read does. -/
theorem all_eq_true_iff {b : Board α} {test : α → Bool} :
    b.all test = true ↔ ∀ p a, b.get? p = some a → test a = true := by
  simp only [all, Array.all_eq_true_iff_forall_mem]
  constructor
  · intro h p a hp
    rw [get?_eq_bind, Option.bind_eq_some_iff] at hp
    obtain ⟨rank, hr, hc⟩ := hp
    exact h rank (Array.mem_of_getElem? hr) a (Array.mem_of_getElem? hc)
  · intro h rank hr a ha
    obtain ⟨r, hr⟩ := Array.mem_iff_getElem?.mp hr
    obtain ⟨c, hc⟩ := Array.mem_iff_getElem?.mp ha
    exact h ⟨r, c⟩ a (by rw [get?_eq_bind, hr]; exact hc)

end Board

end Crossword
