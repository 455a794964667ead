import Crossword.Distinct
import Crossword.Grid
import Crossword.Layout

/-!
# Candidates

Where a word may begin. A word fits at an anchor if each of its squares lies on the grid and is
blank or holds the right letter already (`Grid.fits_iff`). The first word is offered the centre of
the grid, each later word the anchors that put one of its letters on an equal letter of a placed
word (`Layout.mem_crossings`).
-/

namespace Crossword

namespace Grid

/-- Holds if letters can be written one after the other from a square on. -/
def takesFrom (g : Grid) (o : Orientation) : (row col : Nat) → List Char → Bool
  | _, _, [] => true
  | row, col, letter :: rest =>
    match g.get? ⟨row, col⟩ with
    | none => false
    | some cell =>
      cell.accepts letter && g.takesFrom o (row + o.rowStep) (col + o.colStep) rest

/-- Holds if letters can be written from an anchor without leaving the grid or changing a letter. -/
def takes (g : Grid) (letters : List Char) (a : Anchor) : Bool :=
  letters.isEmpty ||
    (decide (0 ≤ a.row) && decide (0 ≤ a.col) &&
      g.takesFrom a.orientation a.row.toNat a.col.toNat letters)

/-- Holds if a word can be written from an anchor without leaving the grid or changing a letter. -/
def fits (g : Grid) (word : String) (a : Anchor) : Bool := g.takes word.toList a

/-- The anchors that centre a word on the grid and at which it fits: on the middle row, then on the
middle column. -/
def centreAnchors (g : Grid) (word : String) : List Anchor :=
  let length := word.length
  [⟨(g.rows / 2 : Nat), ((g.cols - length) / 2 : Nat), .across⟩,
    ⟨((g.rows - length) / 2 : Nat), (g.cols / 2 : Nat), .down⟩].filter (g.fits word)

/-- Letters can be written from a square on if each one's square can take it. -/
theorem takesFrom_iff {g : Grid} {o : Orientation} {letters : List Char} {row col : Nat} :
    g.takesFrom o row col letters = true ↔ ∀ i c, letters[i]? = some c →
      ∃ s, g.get? ⟨row + o.rowStep * i, col + o.colStep * i⟩ = some s ∧ s.accepts c = true := by
  induction letters generalizing row col with
  | nil => simp [takesFrom]
  | cons letter rest ih =>
    have hstep : g.takesFrom o row col (letter :: rest) = true ↔
        (∃ s, g.get? ⟨row, col⟩ = some s ∧ s.accepts letter = true) ∧
          g.takesFrom o (row + o.rowStep) (col + o.colStep) rest = true := by
      rw [takesFrom]
      cases g.get? ⟨row, col⟩ <;> simp
    rw [hstep, ih]
    constructor
    · rintro ⟨hfirst, hrest⟩ i c hi
      cases i with
      | zero =>
        simp only [List.getElem?_cons_zero, Option.some.injEq] at hi
        subst hi
        simpa using hfirst
      | succ i =>
        have := hrest i c (by simpa using hi)
        simpa only [Nat.mul_add, Nat.mul_one, Nat.add_assoc, Nat.add_comm] using this
    · intro h
      refine ⟨by simpa using h 0 letter rfl, fun i c hi => ?_⟩
      have := h (i + 1) c (by simpa using hi)
      simpa only [Nat.mul_add, Nat.mul_one, Nat.add_assoc, Nat.add_comm] using this

/-- A word fits at an anchor if each square that it would cover is on the grid and takes its
letter. -/
theorem fits_iff {g : Grid} {word : String} {a : Anchor} :
    g.fits word a = true ↔ ∀ (i : Nat) (c : Char), word.toList[i]? = some c →
      ∃ p s, a.square? i g.rows g.cols = some p ∧ g.get? p = some s ∧ s.accepts c = true := by
  simp only [fits, takes, Bool.or_eq_true, List.isEmpty_iff, Bool.and_eq_true, decide_eq_true_eq,
    takesFrom_iff]
  constructor
  · rintro (hnil | ⟨⟨hrow, hcol⟩, h⟩) i c hi
    · simp [hnil] at hi
    · obtain ⟨s, hs, hc⟩ := h i c hi
      have hin := Board.isSome_get?_iff.mp (by rw [hs]; rfl)
      simp only [Board.Inside] at hin
      refine ⟨_, s, Anchor.square?_eq_some_iff.mpr ⟨?_, ?_, hin.1, hin.2⟩, hs, hc⟩
      · simp only [Anchor.rowAt]
        omega
      · simp only [Anchor.colAt]
        omega
  · intro h
    cases hw : word.toList with
    | nil => exact .inl rfl
    | cons letter rest =>
      obtain ⟨p, _, hp, _⟩ := h 0 letter (by rw [hw]; rfl)
      obtain ⟨hpr, hpc, _⟩ := Anchor.square?_eq_some_iff.mp hp
      simp only [Anchor.rowAt, Anchor.colAt] at hpr hpc
      refine .inr ⟨⟨by omega, by omega⟩, fun i c hi => ?_⟩
      obtain ⟨q, s, hq, hs, hc⟩ := h i c (by rw [hw]; exact hi)
      obtain ⟨hqr, hqc, _⟩ := Anchor.square?_eq_some_iff.mp hq
      simp only [Anchor.rowAt, Anchor.colAt] at hqr hqc
      refine ⟨s, ?_, hc⟩
      rw [← hs]
      congr 1
      obtain ⟨qr, qc⟩ := q
      simp only [Position.mk.injEq]
      simp only at hqr hqc
      omega

end Grid

/-- The anchor of a direction from which a square is a number of steps away. -/
@[inline] def anchorThrough (p : Position) (steps : Nat) : Orientation → Anchor
  | .down => ⟨(p.row : Int) - steps, p.col, .down⟩
  | .across => ⟨p.row, (p.col : Int) - steps, .across⟩

/-- Holds if a number of squares stay on a line, where a number of them lie before a place. -/
@[inline] def staysOn (line length place before : Nat) : Bool :=
  decide (before ≤ place) && decide (place + length ≤ line + before)

/-- Adds the anchors from which a square is a number of steps away, as far as a word of a length
stays on the grid: the one down, then the one across. -/
@[noinline] def proposeThrough (g : Grid) (length row col steps : Nat) (found : List Anchor) :
    List Anchor :=
  let found :=
    if staysOn g.rows length row steps then anchorThrough ⟨row, col⟩ steps .down :: found else found
  if staysOn g.cols length col steps then anchorThrough ⟨row, col⟩ steps .across :: found else found

/-- Adds the anchors that put one of some letters, the first of which is a number of steps from the
anchor, on a square with the same letter. -/
def proposeAt (g : Grid) (length row col : Nat) (placed : Char) :
    List Char → Nat → List Anchor → List Anchor
  | [], _, found => found
  | letter :: rest, steps, found =>
    if letter = placed then
      proposeAt g length row col placed rest (steps + 1)
        (proposeThrough g length row col steps found)
    else
      proposeAt g length row col placed rest (steps + 1) found

/-- Adds the anchors that put one of a word's letters on an equal one of some squares. -/
def proposeAlong (g : Grid) (length : Nat) (letters : List Char) :
    List (Position × Char) → List Anchor → List Anchor
  | [], found => found
  | (p, placed) :: rest, found =>
    proposeAlong g length letters rest (proposeAt g length p.row p.col placed letters 0 found)

namespace Layout

/-- The anchors at which letters stay on the grid and one of them lies on an equal placed letter,
whether or not the others fit there. -/
def proposals (l : Layout) (g : Grid) (letters : List Char) : List Anchor :=
  let length := letters.length
  let found := l.placed.foldl (fun found entry =>
    proposeAlong g length letters entry.lettered found) []
  found.reverse

/-- The anchors at which a word crosses a placed letter and fits, each once. -/
def crossings (l : Layout) (g : Grid) (word : String) : List Anchor :=
  let letters := word.toList
  (distinct (l.proposals g letters)).filter (g.takes letters)

end Layout

/-- Where a word fits, it stays on the grid. -/
theorem staysOn_of_takes {g : Grid} {letters : List Char} {p : Position} {i : Nat}
    {o : Orientation} (h : g.takes letters (anchorThrough p i o) = true) (hi : i < letters.length) :
    (match o with
      | .down => staysOn g.rows letters.length p.row i
      | .across => staysOn g.cols letters.length p.col i) = true := by
  have hne : letters ≠ [] := List.ne_nil_of_length_pos (by omega)
  simp only [Grid.takes, Bool.or_eq_true, List.isEmpty_iff, hne, false_or, Bool.and_eq_true,
    decide_eq_true_eq] at h
  obtain ⟨⟨hrow, hcol⟩, hletters⟩ := h
  obtain ⟨s, hs, _⟩ := Grid.takesFrom_iff.mp hletters (letters.length - 1) _
    (List.getElem?_eq_getElem (by omega))
  have hin := Board.isSome_get?_iff.mp (by rw [hs]; rfl)
  simp only [Board.Inside] at hin
  cases o <;>
    simp only [anchorThrough, staysOn, Orientation.rowStep, Orientation.colStep, Bool.and_eq_true,
      decide_eq_true_eq] at hin hrow hcol ⊢ <;>
    omega

/-- Holds of the anchors of a direction from which a square is a number of steps away, if a word of
a length stays on the grid there. -/
def StaysThrough (g : Grid) (length : Nat) (p : Position) (steps : Nat) (a : Anchor) : Prop :=
  a = anchorThrough p steps .down ∧ staysOn g.rows length p.row steps = true ∨
    a = anchorThrough p steps .across ∧ staysOn g.cols length p.col steps = true

theorem mem_proposeThrough {g : Grid} {length : Nat} {p : Position} {steps : Nat}
    {found : List Anchor} {a : Anchor} :
    a ∈ proposeThrough g length p.row p.col steps found ↔
      a ∈ found ∨ StaysThrough g length p steps a := by
  obtain ⟨row, col⟩ := p
  unfold proposeThrough StaysThrough
  split <;> split <;> simp_all [or_comm, or_left_comm]

theorem mem_proposeAt {g : Grid} {length : Nat} {p : Position} {placed : Char}
    {letters : List Char} {steps : Nat} {found : List Anchor} {a : Anchor} :
    a ∈ proposeAt g length p.row p.col placed letters steps found ↔ a ∈ found ∨
      ∃ i : Nat, letters[i]? = some placed ∧ StaysThrough g length p (steps + i) a := by
  induction letters generalizing steps found with
  | nil => simp [proposeAt]
  | cons letter rest ih =>
    have hshift : (∃ i : Nat, (letter :: rest)[i]? = some placed ∧
          StaysThrough g length p (steps + i) a) ↔
        letter = placed ∧ StaysThrough g length p steps a ∨
          ∃ i : Nat, rest[i]? = some placed ∧ StaysThrough g length p (steps + 1 + i) a := by
      constructor
      · rintro ⟨i, hi, h⟩
        cases i with
        | zero => exact .inl ⟨by simpa using hi, h⟩
        | succ i => exact .inr ⟨i, by simpa using hi, by rwa [Nat.add_right_comm]⟩
      · rintro (⟨rfl, h⟩ | ⟨i, hi, h⟩)
        · exact ⟨0, rfl, h⟩
        · exact ⟨i + 1, by simpa using hi, by rwa [Nat.add_right_comm] at h⟩
    rw [hshift, proposeAt]
    split
    · next h => simp only [ih, mem_proposeThrough, h, true_and, or_assoc]
    · next h => simp only [ih, h, false_and, false_or]

theorem mem_proposeAlong {g : Grid} {length : Nat} {letters : List Char}
    {squares : List (Position × Char)} {found : List Anchor} {a : Anchor} :
    a ∈ proposeAlong g length letters squares found ↔ a ∈ found ∨
      ∃ p placed i, (p, placed) ∈ squares ∧ letters[i]? = some placed ∧
        StaysThrough g length p i a := by
  induction squares generalizing found with
  | nil => simp [proposeAlong]
  | cons square rest ih =>
    obtain ⟨p, placed⟩ := square
    rw [proposeAlong, ih, mem_proposeAt]
    simp only [Nat.zero_add]
    grind

namespace Layout

theorem mem_proposals {l : Layout} {g : Grid} {letters : List Char} {a : Anchor} :
    a ∈ l.proposals g letters ↔ ∃ entry ∈ l.entries, ∃ p placed i,
      (p, placed) ∈ entry.lettered ∧ letters[i]? = some placed ∧
        StaysThrough g letters.length p i a := by
  have hfold : ∀ (entries : List PlacedWord) (found : List Anchor),
      a ∈ entries.foldl (fun found entry =>
          proposeAlong g letters.length letters entry.lettered found) found ↔
        a ∈ found ∨ ∃ entry ∈ entries, ∃ p placed i, (p, placed) ∈ entry.lettered ∧
          letters[i]? = some placed ∧ StaysThrough g letters.length p i a := by
    intro entries
    induction entries with
    | nil => simp
    | cons entry rest ih =>
      intro found
      rw [List.foldl_cons, ih, mem_proposeAlong]
      grind
  rw [proposals, List.mem_reverse, ← Array.foldl_toList, hfold]
  simp [entries]

/-- An anchor is on offer for a word if the word fits there and one of its letters then lies on an
equal placed letter. -/
theorem mem_crossings {l : Layout} {g : Grid} {word : String} {a : Anchor} :
    a ∈ l.crossings g word ↔
      (∃ entry ∈ l.entries, ∃ p placed i o, (p, placed) ∈ entry.lettered ∧
        word.toList[i]? = some placed ∧ a = anchorThrough p i o) ∧ g.fits word a = true := by
  simp only [crossings, List.mem_filter, mem_distinct, mem_proposals]
  constructor
  · rintro ⟨⟨entry, he, p, placed, i, hp, hi, ⟨ha, _⟩ | ⟨ha, _⟩⟩, hfits⟩
    · exact ⟨⟨entry, he, p, placed, i, .down, hp, hi, ha⟩, hfits⟩
    · exact ⟨⟨entry, he, p, placed, i, .across, hp, hi, ha⟩, hfits⟩
  · rintro ⟨⟨entry, he, p, placed, i, o, hp, hi, rfl⟩, hfits⟩
    have hstays := staysOn_of_takes hfits (List.getElem?_eq_some_iff.mp hi).1
    refine ⟨⟨entry, he, p, placed, i, hp, hi, ?_⟩, hfits⟩
    cases o with
    | down => exact .inl ⟨rfl, hstays⟩
    | across => exact .inr ⟨rfl, hstays⟩

theorem nodup_crossings (l : Layout) (g : Grid) (word : String) : (l.crossings g word).Nodup :=
  (nodup_distinct _).filter _

end Layout

end Crossword
