import Crossword.Draft
import Crossword.Proofs.Squares

/-!
# Owned squares

What claiming and releasing do to a draft, square by square, and what they do to the draft as a
whole. `Draft.Bears live` says that a draft shows a list of words and nothing else: each square is
owned as often as words cover it, and it holds a letter just where a word puts it.

Main results: `Draft.Bears.claim` (claiming a word that fits adds it to what the draft bears),
`Draft.Bears.release` (releasing a word takes it away again) and `Draft.Bears.grid_eq`,
`Draft.Bears.owners_eq` (what a draft bears determines its letters and its counts). No order of the
words plays a part (`Draft.Bears.perm`).
-/

namespace Crossword

namespace Draft

/-! ## The shape of a draft -/

/-- The sizes of a draft's grid and of its board of owners. -/
def shape (d : Draft) : (Nat × Nat) × Nat × Nat :=
  ((d.grid.rows, d.grid.cols), (d.owners.rows, d.owners.cols))

/-- Holds if there is a count for each square of the grid, and for no other one. -/
def Counted (d : Draft) : Prop := d.shape.1 = d.shape.2

theorem Counted.inside_iff {d : Draft} (h : d.Counted) {p : Position} :
    d.owners.Inside p ↔ d.grid.Inside p := by
  have hr : d.grid.rows = d.owners.rows := congrArg (·.1) h
  have hc : d.grid.cols = d.owners.cols := congrArg (·.2) h
  rw [Board.Inside, Board.Inside, hr, hc]

/-- A straight word that lies on the grid covers different squares, and each of them is counted. -/
theorem Counted.squares {d : Draft} (hd : d.Counted) {entry : PlacedWord}
    (hstraight : entry.isStraight = true)
    (hin : ∀ q ∈ entry.placement.cells, d.grid.Inside q) :
    (entry.lettered.map Prod.fst).Nodup ∧
      ∀ s ∈ entry.lettered, d.owners.Inside s.1 ∧ d.grid.Inside s.1 := by
  have hcells := PlacedWord.map_fst_lettered hstraight
  refine ⟨hcells.symm ▸ PlacedWord.nodup_cells hstraight, ?_⟩
  intro s hs
  have hgrid : d.grid.Inside s.1 := hin s.1 (hcells ▸ List.mem_map.mpr ⟨s, hs, rfl⟩)
  exact ⟨hd.inside_iff.mpr hgrid, hgrid⟩

section Shape

variable {d e : Draft} (h : e.shape = d.shape)

include h

theorem rows_of_shape : e.grid.rows = d.grid.rows := congrArg (·.1.1) h

theorem cols_of_shape : e.grid.cols = d.grid.cols := congrArg (·.1.2) h

theorem grid_inside_of_shape {p : Position} : e.grid.Inside p ↔ d.grid.Inside p := by
  rw [Board.Inside, Board.Inside, rows_of_shape h, cols_of_shape h]

theorem owners_inside_of_shape {p : Position} : e.owners.Inside p ↔ d.owners.Inside p := by
  have hr : e.owners.rows = d.owners.rows := congrArg (·.2.1) h
  have hc : e.owners.cols = d.owners.cols := congrArg (·.2.2) h
  rw [Board.Inside, Board.Inside, hr, hc]

theorem inside_of_shape {p : Position} :
    e.owners.Inside p ∧ e.grid.Inside p ↔ d.owners.Inside p ∧ d.grid.Inside p :=
  and_congr (owners_inside_of_shape h) (grid_inside_of_shape h)

theorem counted_of_shape (hd : d.Counted) : e.Counted := by
  rw [Counted, h]
  exact hd

end Shape

@[simp] theorem shape_claimSquare (d : Draft) (p : Position) (letter : Char) :
    (d.claimSquare p letter).1.shape = d.shape := by
  unfold claimSquare
  split <;> rfl

@[simp] theorem shape_releaseSquare (d : Draft) (p : Position) :
    (d.releaseSquare p).1.shape = d.shape := by
  unfold releaseSquare
  split
  · rfl
  · split <;> rfl

@[simp] theorem shape_claimSquares (d : Draft) (squares : List (Position × Char)) :
    (d.claimSquares squares).1.shape = d.shape := by
  induction squares generalizing d with
  | nil => rfl
  | cons s rest ih => exact (ih _).trans (shape_claimSquare d s.1 s.2)

@[simp] theorem shape_releaseSquares (d : Draft) (squares : List Position) :
    (d.releaseSquares squares).1.shape = d.shape := by
  induction squares generalizing d with
  | nil => rfl
  | cons p rest ih => exact (ih _).trans (shape_releaseSquare d p)

/-! ## One square -/

/-- Where squares are counted, the count is what the board of owners holds. -/
theorem get?_owners {d : Draft} {p : Position} (h : d.owners.Inside p) :
    d.owners.get? p = some (d.ownersAt p) := by
  obtain ⟨n, hn⟩ := Option.isSome_iff_exists.mp (Board.isSome_get?_iff.mpr h)
  rw [ownersAt, hn, Option.getD_some]

/-- What is counted after a count has been written. -/
theorem ownersAt_set {d : Draft} {p q : Position} {n : Nat} (h : d.owners.Inside p) :
    ((d.owners.set p n).get? q).getD 0 = if p = q then n else d.ownersAt q := by
  rw [Board.get?_set]
  by_cases hpq : p = q
  · rw [if_pos ⟨hpq, h⟩, if_pos hpq, Option.getD_some]
  · rw [if_neg fun e => hpq e.1, if_neg hpq, ownersAt]

section OneSquare

variable {d : Draft} {p : Position} (h : d.owners.Inside p)

include h

/-- A claim of a square that is counted, without its case split. -/
theorem claimSquare_eq (letter : Char) :
    (d.claimSquare p letter).1 =
      { d with
        grid := if d.ownersAt p = 0 then d.grid.set p (.letter letter) else d.grid
        owners := d.owners.set p (min (d.ownersAt p + 1) maxOwners) } := by
  unfold claimSquare
  rw [get?_owners h]
  cases d.ownersAt p with
  | zero => rfl
  | succ n => rfl

/-- A release of a square that is counted, without its case split. -/
theorem releaseSquare_eq :
    (d.releaseSquare p).1 =
      { d with
        grid := if d.ownersAt p ≤ 1 then d.grid.set p .blank else d.grid
        owners := d.owners.set p (d.ownersAt p - 1) } := by
  unfold releaseSquare
  rw [get?_owners h]
  by_cases hle : d.ownersAt p ≤ 1
  · simp only [if_pos hle]
    rw [show d.ownersAt p - 1 = 0 from by omega]
  · simp only [if_neg hle]

theorem ownersAt_claimSquare (letter : Char) (q : Position) :
    (d.claimSquare p letter).1.ownersAt q =
      if p = q then min (d.ownersAt p + 1) maxOwners else d.ownersAt q := by
  rw [claimSquare_eq h]
  exact ownersAt_set h

theorem ownersAt_releaseSquare (q : Position) :
    (d.releaseSquare p).1.ownersAt q = if p = q then d.ownersAt p - 1 else d.ownersAt q := by
  rw [releaseSquare_eq h]
  exact ownersAt_set h

theorem get?_grid_claimSquare (hp : d.grid.Inside p) (letter : Char) (q : Position) :
    (d.claimSquare p letter).1.grid.get? q =
      if p = q ∧ d.ownersAt p = 0 then some (.letter letter) else d.grid.get? q := by
  rw [claimSquare_eq h]
  by_cases h0 : d.ownersAt p = 0
  · simp only [h0, if_true, Board.get?_set, hp]
  · simp only [h0, if_false, and_false]

theorem get?_grid_releaseSquare (hp : d.grid.Inside p) (q : Position) :
    (d.releaseSquare p).1.grid.get? q =
      if p = q ∧ d.ownersAt p ≤ 1 then some .blank else d.grid.get? q := by
  rw [releaseSquare_eq h]
  by_cases hle : d.ownersAt p ≤ 1
  · simp only [hle, if_true, Board.get?_set, hp]
  · simp only [hle, if_false, and_false]

end OneSquare

/-! ## A list of squares -/

section Claim

variable {d : Draft} {squares : List (Position × Char)}

/-- Each of some squares has one owner more, unless there are too many to count. -/
theorem ownersAt_claimSquares (hnodup : (squares.map Prod.fst).Nodup)
    (hin : ∀ s ∈ squares, d.owners.Inside s.1) (q : Position) :
    (d.claimSquares squares).1.ownersAt q =
      if q ∈ squares.map Prod.fst then min (d.ownersAt q + 1) maxOwners else d.ownersAt q := by
  induction squares generalizing d with
  | nil => rfl
  | cons s rest ih =>
    obtain ⟨p, letter⟩ := s
    have hp : d.owners.Inside p := hin (p, letter) (List.mem_cons_self ..)
    obtain ⟨hnot, hrest⟩ := List.nodup_cons.mp hnodup
    have hin' : ∀ s ∈ rest, (d.claimSquare p letter).1.owners.Inside s.1 := fun s hs =>
      (owners_inside_of_shape (shape_claimSquare ..)).mpr (hin s (List.mem_cons_of_mem _ hs))
    simp only [claimSquares]
    rw [ih hrest hin', ownersAt_claimSquare hp]
    by_cases hpq : p = q
    · subst hpq
      have hself : p ∈ ((p, letter) :: rest).map Prod.fst := List.mem_cons_self ..
      rw [if_neg hnot, if_pos rfl, if_pos hself]
    · have hmem : q ∈ ((p, letter) :: rest).map Prod.fst ↔ q ∈ rest.map Prod.fst := by
        simp only [List.map_cons, List.mem_cons, show ¬ q = p from fun e => hpq e.symm, false_or]
      rw [if_neg hpq]
      simp only [hmem]

/-- A claim leaves a square alone that is not claimed or has an owner already. -/
theorem get?_grid_claimSquares_of_not (hnodup : (squares.map Prod.fst).Nodup)
    (hin : ∀ s ∈ squares, d.owners.Inside s.1 ∧ d.grid.Inside s.1) {q : Position}
    (h : q ∉ squares.map Prod.fst ∨ d.ownersAt q ≠ 0) :
    (d.claimSquares squares).1.grid.get? q = d.grid.get? q := by
  induction squares generalizing d with
  | nil => rfl
  | cons s rest ih =>
    obtain ⟨p, letter⟩ := s
    obtain ⟨hp, hpg⟩ := hin (p, letter) (List.mem_cons_self ..)
    obtain ⟨hnot, hrest⟩ := List.nodup_cons.mp hnodup
    have hin' : ∀ s ∈ rest, (d.claimSquare p letter).1.owners.Inside s.1 ∧
        (d.claimSquare p letter).1.grid.Inside s.1 := fun s hs =>
      (inside_of_shape (shape_claimSquare ..)).mpr (hin s (List.mem_cons_of_mem _ hs))
    -- the first square is none of the others, so it cannot have given `q` its first owner
    have hkeep : q ∉ rest.map Prod.fst ∨ (d.claimSquare p letter).1.ownersAt q ≠ 0 := by
      by_cases hq : q ∈ rest.map Prod.fst
      · right
        rw [ownersAt_claimSquare hp, if_neg fun e : p = q => hnot (e ▸ hq)]
        rcases h with hmem | hne
        · exact absurd (List.mem_cons_of_mem _ hq) hmem
        · exact hne
      · exact Or.inl hq
    simp only [claimSquares]
    rw [ih hrest hin' hkeep, get?_grid_claimSquare hp hpg, if_neg]
    intro hboth
    obtain ⟨rfl, h0⟩ := hboth
    rcases h with hmem | hne
    · exact hmem (List.mem_cons_self ..)
    · exact hne h0

/-- A claimed square without an owner gets its letter. -/
theorem get?_grid_claimSquares_of_mem (hnodup : (squares.map Prod.fst).Nodup)
    (hin : ∀ s ∈ squares, d.owners.Inside s.1 ∧ d.grid.Inside s.1) {q : Position}
    {letter : Char} (hmem : (q, letter) ∈ squares) (h0 : d.ownersAt q = 0) :
    (d.claimSquares squares).1.grid.get? q = some (.letter letter) := by
  induction squares generalizing d with
  | nil => simp at hmem
  | cons s rest ih =>
    obtain ⟨p, first⟩ := s
    obtain ⟨hp, hpg⟩ := hin (p, first) (List.mem_cons_self ..)
    obtain ⟨hnot, hrest⟩ := List.nodup_cons.mp hnodup
    have hin' : ∀ s ∈ rest, (d.claimSquare p first).1.owners.Inside s.1 ∧
        (d.claimSquare p first).1.grid.Inside s.1 := fun s hs =>
      (inside_of_shape (shape_claimSquare ..)).mpr (hin s (List.mem_cons_of_mem _ hs))
    simp only [claimSquares]
    rcases List.mem_cons.mp hmem with heq | hlater
    · -- written first, and left alone by the claims that follow
      obtain ⟨rfl, rfl⟩ := Prod.mk.injEq .. ▸ heq
      rw [get?_grid_claimSquares_of_not hrest hin' (Or.inl hnot), get?_grid_claimSquare hp hpg,
        if_pos ⟨rfl, h0⟩]
    · have hpq : p ≠ q := by
        rintro rfl
        exact hnot (List.mem_map.mpr ⟨_, hlater, rfl⟩)
      apply ih hrest hin' hlater
      rw [ownersAt_claimSquare hp, if_neg hpq]
      exact h0

end Claim

section Release

variable {d : Draft} {squares : List Position}

/-- Each of some squares has one owner less. -/
theorem ownersAt_releaseSquares (hnodup : squares.Nodup)
    (hin : ∀ p ∈ squares, d.owners.Inside p) (q : Position) :
    (d.releaseSquares squares).1.ownersAt q =
      if q ∈ squares then d.ownersAt q - 1 else d.ownersAt q := by
  induction squares generalizing d with
  | nil => rfl
  | cons p rest ih =>
    have hp : d.owners.Inside p := hin p (List.mem_cons_self ..)
    obtain ⟨hnot, hrest⟩ := List.nodup_cons.mp hnodup
    have hin' : ∀ r ∈ rest, (d.releaseSquare p).1.owners.Inside r := fun r hr =>
      (owners_inside_of_shape (shape_releaseSquare ..)).mpr (hin r (List.mem_cons_of_mem _ hr))
    simp only [releaseSquares]
    rw [ih hrest hin', ownersAt_releaseSquare hp]
    by_cases hpq : p = q
    · subst hpq
      simp [hnot]
    · simp [hpq, show ¬ q = p from fun e => hpq e.symm]

/-- A released square is blanked if it had at most one owner; the others are left alone. -/
theorem get?_grid_releaseSquares (hnodup : squares.Nodup)
    (hin : ∀ p ∈ squares, d.owners.Inside p ∧ d.grid.Inside p) (q : Position) :
    (d.releaseSquares squares).1.grid.get? q =
      if q ∈ squares ∧ d.ownersAt q ≤ 1 then some .blank else d.grid.get? q := by
  induction squares generalizing d with
  | nil => simp [releaseSquares]
  | cons p rest ih =>
    obtain ⟨hp, hpg⟩ := hin p (List.mem_cons_self ..)
    obtain ⟨hnot, hrest⟩ := List.nodup_cons.mp hnodup
    have hin' : ∀ r ∈ rest, (d.releaseSquare p).1.owners.Inside r ∧
        (d.releaseSquare p).1.grid.Inside r := fun r hr =>
      (inside_of_shape (shape_releaseSquare ..)).mpr (hin r (List.mem_cons_of_mem _ hr))
    simp only [releaseSquares]
    rw [ih hrest hin', ownersAt_releaseSquare hp, get?_grid_releaseSquare hp hpg]
    by_cases hpq : p = q
    · subst hpq
      simp [hnot]
    · simp [hpq, show ¬ q = p from fun e => hpq e.symm]

end Release

/-! ## Words -/

/-- The number of words of a list that cover a square. -/
def coverCount (live : List PlacedWord) (q : Position) : Nat :=
  live.countP fun entry => q ∈ entry.placement.cells

theorem coverCount_cons (entry : PlacedWord) (live : List PlacedWord) (q : Position) :
    coverCount (entry :: live) q =
      coverCount live q + if q ∈ entry.placement.cells then 1 else 0 := by
  simp [coverCount, List.countP_cons]

theorem coverCount_eq_zero_iff {live : List PlacedWord} {q : Position} :
    coverCount live q = 0 ↔ ∀ entry ∈ live, q ∉ entry.placement.cells := by
  simp [coverCount, List.countP_eq_zero]

theorem coverCount_le_length (live : List PlacedWord) (q : Position) :
    coverCount live q ≤ live.length := List.countP_le_length

/-- A draft bears some words if it shows them and nothing else: each square is owned as often as
they cover it, and it holds the letters that they put there. -/
structure Bears (d : Draft) (live : List PlacedWord) : Prop where
  counted : d.Counted
  /-- Each word is written on a straight run of its own length. -/
  straight : ∀ entry ∈ live, entry.isStraight = true
  inside : ∀ entry ∈ live, ∀ q ∈ entry.placement.cells, d.grid.Inside q
  owners : ∀ q, d.ownersAt q = coverCount live q
  letters : ∀ q c, d.grid.get? q = some (.letter c) ↔ ∃ entry ∈ live, (q, c) ∈ entry.lettered

namespace Bears

variable {d e : Draft} {live : List PlacedWord}

/-- The order of the words does not matter. -/
theorem perm {live' : List PlacedWord} (h : d.Bears live) (hperm : live.Perm live') :
    d.Bears live' where
  counted := h.counted
  straight entry he := h.straight entry (hperm.mem_iff.mpr he)
  inside entry he := h.inside entry (hperm.mem_iff.mpr he)
  owners q := (h.owners q).trans (hperm.countP_eq _)
  letters q c := by
    rw [h.letters]
    constructor
    · intro hex
      obtain ⟨entry, he, hq⟩ := hex
      exact ⟨entry, hperm.mem_iff.mp he, hq⟩
    · intro hex
      obtain ⟨entry, he, hq⟩ := hex
      exact ⟨entry, hperm.mem_iff.mpr he, hq⟩

/-- A covered square holds a letter, the one that each word over it puts there. -/
theorem get?_of_mem (h : d.Bears live) {entry : PlacedWord} (he : entry ∈ live) {q : Position}
    {c : Char} (hq : (q, c) ∈ entry.lettered) : d.grid.get? q = some (.letter c) :=
  (h.letters q c).mpr ⟨entry, he, hq⟩

/-- Words that share a square agree on its letter. -/
theorem agree (h : d.Bears live) {v w : PlacedWord} (hv : v ∈ live) (hw : w ∈ live)
    {q : Position} {a b : Char} (ha : (q, a) ∈ v.lettered) (hb : (q, b) ∈ w.lettered) :
    a = b := by
  have hcell := (h.get?_of_mem hv ha).symm.trans (h.get?_of_mem hw hb)
  simpa using hcell

/-- A square of the grid is blank just if no word covers it. -/
theorem get?_eq_blank_iff (h : d.Bears live) {q : Position} (hq : d.grid.Inside q) :
    d.grid.get? q = some .blank ↔ coverCount live q = 0 := by
  rw [coverCount_eq_zero_iff]
  constructor
  · intro hblank entry he hmem
    obtain ⟨c, hc⟩ := (PlacedWord.mem_cells_iff (h.straight entry he)).mp hmem
    rw [h.get?_of_mem he hc] at hblank
    simp at hblank
  · intro hnone
    obtain ⟨s, hs⟩ := Option.isSome_iff_exists.mp (Board.isSome_get?_iff.mpr hq)
    cases s with
    | blank => exact hs
    | letter c =>
      obtain ⟨entry, he, hc⟩ := (h.letters q c).mp hs
      have hmem := (PlacedWord.mem_cells_iff (h.straight entry he)).mpr ⟨c, hc⟩
      exact absurd hmem (hnone entry he)

/-- Two drafts of one shape that bear the same words show the same letters. -/
theorem grid_eq (hd : d.Bears live) (he : e.Bears live) (hshape : d.shape = e.shape) :
    d.grid = e.grid := by
  apply Board.ext_get? (rows_of_shape hshape) (cols_of_shape hshape)
  intro q
  have hin : d.grid.Inside q ↔ e.grid.Inside q := grid_inside_of_shape hshape
  by_cases hq : d.grid.Inside q
  · obtain ⟨s, hs⟩ := Option.isSome_iff_exists.mp (Board.isSome_get?_iff.mpr hq)
    rw [hs]
    cases s with
    | blank =>
      have hzero := (hd.get?_eq_blank_iff hq).mp hs
      exact ((he.get?_eq_blank_iff (hin.mp hq)).mpr hzero).symm
    | letter c => exact ((he.letters q c).mpr ((hd.letters q c).mp hs)).symm
  · rw [Board.get?_eq_none_iff.mpr hq, Board.get?_eq_none_iff.mpr fun h => hq (hin.mpr h)]

/-- Two drafts of one shape that bear the same words count the same owners. -/
theorem owners_eq (hd : d.Bears live) (he : e.Bears live) (hshape : d.shape = e.shape) :
    d.owners = e.owners := by
  apply Board.ext_get? (congrArg (·.2.1) hshape) (congrArg (·.2.2) hshape)
  intro q
  have hin : d.owners.Inside q ↔ e.owners.Inside q := owners_inside_of_shape hshape
  by_cases hq : d.owners.Inside q
  · rw [get?_owners hq, get?_owners (hin.mp hq), hd.owners, he.owners]
  · rw [Board.get?_eq_none_iff.mpr hq, Board.get?_eq_none_iff.mpr fun h => hq (hin.mpr h)]

section Claimed

variable {entry : PlacedWord} (h : d.Bears live) (hstraight : entry.isStraight = true)
  (hin : ∀ q ∈ entry.placement.cells, d.grid.Inside q)
  (haccepts : ∀ q c, (q, c) ∈ entry.lettered →
    d.grid.get? q = some .blank ∨ d.grid.get? q = some (.letter c))

include h hstraight hin haccepts

/-- A square of a claimed word ends up with the word's letter, whichever word came there first. -/
theorem get?_claim {q : Position} {c : Char} (hc : (q, c) ∈ entry.lettered) :
    (d.claimSquares entry.lettered).1.grid.get? q = some (.letter c) := by
  obtain ⟨hnodup, hboth⟩ := h.counted.squares hstraight hin
  have hq : q ∈ entry.placement.cells := (PlacedWord.mem_cells_iff hstraight).mpr ⟨c, hc⟩
  by_cases h0 : d.ownersAt q = 0
  · exact get?_grid_claimSquares_of_mem hnodup hboth hc h0
  · rw [get?_grid_claimSquares_of_not hnodup hboth (Or.inr h0)]
    rcases haccepts q c hc with hblank | hletter
    · -- an owned square is not blank
      rw [h.get?_eq_blank_iff (hin q hq), ← h.owners] at hblank
      exact absurd hblank h0
    · exact hletter

/-- After a word has been claimed, the grid has its letters as well. -/
theorem letters_claim (q : Position) (c : Char) :
    (d.claimSquares entry.lettered).1.grid.get? q = some (.letter c) ↔
      ∃ x ∈ entry :: live, (q, c) ∈ x.lettered := by
  by_cases hq : q ∈ entry.placement.cells
  · obtain ⟨c', hc'⟩ := (PlacedWord.mem_cells_iff hstraight).mp hq
    rw [h.get?_claim hstraight hin haccepts hc']
    constructor
    · intro heq
      obtain rfl : c' = c := by simpa using heq
      exact ⟨entry, List.mem_cons_self .., hc'⟩
    · intro hx
      obtain ⟨x, hx, hc⟩ := hx
      rcases List.mem_cons.mp hx with rfl | hx
      · rw [PlacedWord.letter_unique hstraight hc' hc]
      · -- a word that was there already has put the same letter on the square
        rcases haccepts q c' hc' with hblank | hletter
        · rw [h.get?_of_mem hx hc] at hblank
          simp at hblank
        · rw [← hletter]
          exact h.get?_of_mem hx hc
  · obtain ⟨hnodup, hboth⟩ := h.counted.squares hstraight hin
    have hfst : q ∉ entry.lettered.map Prod.fst := by
      rw [PlacedWord.map_fst_lettered hstraight]
      exact hq
    rw [get?_grid_claimSquares_of_not hnodup hboth (Or.inl hfst), h.letters]
    constructor
    · intro hx
      obtain ⟨x, hx, hc⟩ := hx
      exact ⟨x, List.mem_cons_of_mem _ hx, hc⟩
    · intro hx
      obtain ⟨x, hx, hc⟩ := hx
      rcases List.mem_cons.mp hx with rfl | hx
      · exact absurd ((PlacedWord.mem_cells_iff hstraight).mpr ⟨c, hc⟩) hq
      · exact ⟨x, hx, hc⟩

/-- A draft bears one more word after that word has been claimed, if each of its squares was blank
or held its letter and there was room in the counts. -/
theorem claim (hroom : ∀ q ∈ entry.placement.cells, coverCount live q < maxOwners) :
    (d.claimSquares entry.lettered).1.Bears (entry :: live) := by
  obtain ⟨hnodup, hboth⟩ := h.counted.squares hstraight hin
  refine ⟨counted_of_shape (shape_claimSquares ..) h.counted, ?_, ?_, ?_,
    h.letters_claim hstraight hin haccepts⟩
  · intro x hx
    rcases List.mem_cons.mp hx with rfl | hx
    · exact hstraight
    · exact h.straight x hx
  · intro x hx q hq
    rw [grid_inside_of_shape (shape_claimSquares ..)]
    rcases List.mem_cons.mp hx with rfl | hx
    · exact hin q hq
    · exact h.inside x hx q hq
  · intro q
    rw [ownersAt_claimSquares hnodup (fun s hs => (hboth s hs).1),
      PlacedWord.map_fst_lettered hstraight, coverCount_cons, h.owners]
    split
    · next hq =>
      have := hroom q hq
      omega
    · rfl

end Claimed

section Released

variable {entry : PlacedWord} (h : d.Bears (entry :: live))

include h

theorem count_released (q : Position) :
    d.ownersAt q = coverCount live q + if q ∈ entry.placement.cells then 1 else 0 :=
  (h.owners q).trans (coverCount_cons entry live q)

/-- The squares of the word that is released are counted, and none of them occurs twice. -/
theorem squares_released : entry.placement.cells.Nodup ∧
    ∀ q ∈ entry.placement.cells, d.owners.Inside q ∧ d.grid.Inside q := by
  have hgrid := h.inside entry (List.mem_cons_self ..)
  exact ⟨PlacedWord.nodup_cells (h.straight entry (List.mem_cons_self ..)),
    fun q hq => ⟨h.counted.inside_iff.mpr (hgrid q hq), hgrid q hq⟩⟩

/-- After a word has been released, the grid has the letters of the others. -/
theorem letters_release (q : Position) (c : Char) :
    (d.release entry.placement).1.grid.get? q = some (.letter c) ↔
      ∃ x ∈ live, (q, c) ∈ x.lettered := by
  obtain ⟨hnodup, hboth⟩ := h.squares_released
  have hstraight := h.straight entry (List.mem_cons_self ..)
  rw [Draft.release, get?_grid_releaseSquares hnodup hboth, h.count_released]
  by_cases hlast : q ∈ entry.placement.cells ∧ coverCount live q = 0
  · -- the square is blanked, and no other word covers it
    rw [if_pos ⟨hlast.1, by rw [if_pos hlast.1]; omega⟩]
    constructor
    · intro hblank
      simp at hblank
    · intro hx
      obtain ⟨x, hx, hc⟩ := hx
      have hmem := (PlacedWord.mem_cells_iff
        (h.straight x (List.mem_cons_of_mem _ hx))).mpr ⟨c, hc⟩
      exact absurd hmem (coverCount_eq_zero_iff.mp hlast.2 x hx)
  · have hkept : ¬ (q ∈ entry.placement.cells ∧
        (coverCount live q + if q ∈ entry.placement.cells then 1 else 0) ≤ 1) := by
      intro hboth
      obtain ⟨hmem, hle⟩ := hboth
      rw [if_pos hmem] at hle
      exact hlast ⟨hmem, by omega⟩
    rw [if_neg hkept, h.letters]
    constructor
    · intro hx
      obtain ⟨x, hx, hc⟩ := hx
      rcases List.mem_cons.mp hx with rfl | hx
      · -- another word covers the square too and puts the same letter there
        have hmem := (PlacedWord.mem_cells_iff hstraight).mpr ⟨c, hc⟩
        have hother : ¬ ∀ y ∈ live, q ∉ y.placement.cells := fun hall =>
          hlast ⟨hmem, coverCount_eq_zero_iff.mpr hall⟩
        simp only [Classical.not_forall, Decidable.not_not] at hother
        obtain ⟨y, hy, hyq⟩ := hother
        have hy' := List.mem_cons_of_mem x hy
        obtain ⟨c', hc'⟩ := (PlacedWord.mem_cells_iff (h.straight y hy')).mp hyq
        rw [h.agree (List.mem_cons_self ..) hy' hc hc']
        exact ⟨y, hy, hc'⟩
      · exact ⟨x, hx, hc⟩
    · intro hx
      obtain ⟨x, hx, hc⟩ := hx
      exact ⟨x, List.mem_cons_of_mem _ hx, hc⟩

/-- A draft no longer bears a word that has been released. -/
theorem release : (d.release entry.placement).1.Bears live := by
  obtain ⟨hnodup, hboth⟩ := h.squares_released
  refine ⟨counted_of_shape (shape_releaseSquares ..) h.counted, ?_, ?_, ?_, h.letters_release⟩
  · intro x hx
    exact h.straight x (List.mem_cons_of_mem _ hx)
  · intro x hx q hq
    rw [Draft.release, grid_inside_of_shape (shape_releaseSquares ..)]
    exact h.inside x (List.mem_cons_of_mem _ hx) q hq
  · intro q
    rw [Draft.release, ownersAt_releaseSquares hnodup (fun q hq => (hboth q hq).1),
      h.count_released]
    split <;> omega

end Released

end Bears

end Draft

end Crossword
