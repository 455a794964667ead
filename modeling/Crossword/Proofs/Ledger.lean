import Crossword.Proofs.Soundness
import Crossword.Proofs.Trimming
import Mathlib

/-!
# Releases in any order

The search takes words back in the reverse of the order in which it placed them. Counting owners
does not need that: `Ledger` keeps a draft together with the words that own its squares, and any of
these may be released, not just the latest one. Each step leaves a draft that bears exactly the
words that are live then (`Ledger.Exact.step`), so by induction on the steps every history does
(`Ledger.Exact.steps`), and what a draft bears leaves no room for its history to show.

What a step returns is counted one square at a time. On a draft that is lit where it is owned, a
square is written, or blanked, just when the grid gains, or loses, a letter there
(`Draft.LitWhereOwned`).

Main result: `Ledger.shows_what_is_live`.
-/

namespace Crossword

namespace Grid

/-! ## Counting letters -/

theorem lit_set {g : Grid} {p q : Position} (hp : g.Inside p) (s : Cell) :
    lit (g.set p s) q = if p = q then !s.isBlank else g.lit q := by
  unfold lit cellAt
  rw [Board.get?_set]
  by_cases hpq : p = q
  · rw [if_pos ⟨hpq, hp⟩, if_pos hpq]
    rfl
  · rw [if_neg fun h => hpq h.1, if_neg hpq]

/-- Writing a square changes the number of letters by that square alone. -/
theorem letterCount_set {g : Grid} {p : Position} (hp : g.Inside p) (s : Cell) :
    letterCount (g.set p s) + (g.lit p).toNat = g.letterCount + (!s.isBlank).toNat := by
  have hcount : ∀ h : Grid, h.letterCount = h.positions.countP h.lit := fun h => by
    rw [letterCount, litSquares_eq, List.countP_eq_length_filter]
  have hperm := List.perm_cons_erase (Board.mem_positions.mpr hp)
  have hnot : p ∉ g.positions.erase p := fun hmem =>
    (Board.nodup_positions g).not_mem_erase hmem
  have hothers : (g.positions.erase p).countP (lit (g.set p s)) =
      (g.positions.erase p).countP g.lit := by
    refine List.countP_congr fun q hq => ?_
    rw [lit_set hp, if_neg fun h : p = q => hnot (h ▸ hq)]
  rw [hcount, hcount, show (g.set p s).positions = g.positions from rfl, hperm.countP_eq,
    hperm.countP_eq, List.countP_cons, List.countP_cons, hothers, lit_set hp, if_pos rfl]
  cases g.lit p <;> cases s.isBlank <;> simp

end Grid

namespace Draft

/-! ## What claims and releases return -/

/-- A draft is lit where it is owned if the squares with a letter are those with an owner. -/
structure LitWhereOwned (d : Draft) : Prop where
  counted : d.Counted
  lit_iff : ∀ q, d.grid.lit q = true ↔ d.ownersAt q ≠ 0

/-- A draft that bears some words is lit where they own it. -/
theorem Bears.litWhereOwned {d : Draft} {live : List PlacedWord} (h : d.Bears live) :
    d.LitWhereOwned where
  counted := h.counted
  lit_iff q := by
    rw [Grid.lit_iff, h.owners, ne_eq, coverCount_eq_zero_iff]
    constructor
    · intro hex hnone
      obtain ⟨c, hc⟩ := hex
      obtain ⟨entry, he, hmem⟩ := (h.letters q c).mp hc
      exact hnone entry he ((PlacedWord.mem_cells_iff (h.straight entry he)).mpr ⟨c, hmem⟩)
    · intro hsome
      simp only [Classical.not_forall, Decidable.not_not] at hsome
      obtain ⟨entry, he, hq⟩ := hsome
      obtain ⟨c, hc⟩ := (PlacedWord.mem_cells_iff (h.straight entry he)).mp hq
      exact ⟨c, h.get?_of_mem he hc⟩

namespace LitWhereOwned

variable {d : Draft} (h : d.LitWhereOwned)

include h

/-- Claiming a square keeps a draft lit where it is owned. -/
theorem claimSquare {p : Position} (hp : d.grid.Inside p) (letter : Char) :
    (d.claimSquare p letter).1.LitWhereOwned where
  counted := counted_of_shape (shape_claimSquare ..) h.counted
  lit_iff q := by
    have howned := h.counted.inside_iff.mpr hp
    have hpos : min (d.ownersAt p + 1) maxOwners ≠ 0 :=
      Nat.ne_of_gt (Nat.lt_min.mpr ⟨Nat.succ_pos _, by decide⟩)
    rw [ownersAt_claimSquare howned, Grid.lit_iff, get?_grid_claimSquare howned hp]
    by_cases hpq : p = q
    · subst hpq
      rw [if_pos rfl]
      by_cases h0 : d.ownersAt p = 0
      · rw [if_pos ⟨rfl, h0⟩]
        exact iff_of_true ⟨letter, rfl⟩ hpos
      · rw [if_neg fun hboth => h0 hboth.2]
        exact iff_of_true (Grid.lit_iff.mp ((h.lit_iff p).mpr h0)) hpos
    · rw [if_neg fun hboth => hpq hboth.1, if_neg hpq, ← Grid.lit_iff]
      exact h.lit_iff q

/-- A claim of one square returns how many letters the grid gains. -/
theorem letterCount_claimSquare {p : Position} (hp : d.grid.Inside p) (letter : Char) :
    (d.claimSquare p letter).1.grid.letterCount =
      d.grid.letterCount + (d.claimSquare p letter).2 := by
  have howned := h.counted.inside_iff.mpr hp
  have hlit := h.lit_iff p
  unfold Draft.claimSquare
  rw [get?_owners howned]
  cases hn : d.ownersAt p with
  | zero =>
    -- the square was blank
    rw [hn] at hlit
    have hcount := Grid.letterCount_set hp (.letter letter)
    rw [Bool.eq_false_iff.mpr fun ht => hlit.mp ht rfl] at hcount
    exact hcount
  | succ n => rfl

/-- Releasing a square that has an owner keeps a draft lit where it is owned. -/
theorem releaseSquare {p : Position} (hp : d.grid.Inside p) (howner : d.ownersAt p ≠ 0) :
    (d.releaseSquare p).1.LitWhereOwned where
  counted := counted_of_shape (shape_releaseSquare ..) h.counted
  lit_iff q := by
    have howned := h.counted.inside_iff.mpr hp
    rw [ownersAt_releaseSquare howned, Grid.lit_iff, get?_grid_releaseSquare howned hp]
    by_cases hpq : p = q
    · subst hpq
      rw [if_pos rfl]
      by_cases hlast : d.ownersAt p ≤ 1
      · rw [if_pos ⟨rfl, hlast⟩]
        refine iff_of_false (fun hex => ?_) (fun hne => hne (by omega))
        obtain ⟨c, hc⟩ := hex
        simp at hc
      · rw [if_neg fun hboth => hlast hboth.2]
        exact iff_of_true (Grid.lit_iff.mp ((h.lit_iff p).mpr howner)) (by omega)
    · rw [if_neg fun hboth => hpq hboth.1, if_neg hpq, ← Grid.lit_iff]
      exact h.lit_iff q

/-- A release of one square that has an owner returns how many letters the grid loses. -/
theorem letterCount_releaseSquare {p : Position} (hp : d.grid.Inside p)
    (howner : d.ownersAt p ≠ 0) :
    d.grid.letterCount =
      (d.releaseSquare p).1.grid.letterCount + (d.releaseSquare p).2 := by
  have howned := h.counted.inside_iff.mpr hp
  have hlit := (h.lit_iff p).mpr howner
  unfold Draft.releaseSquare
  rw [get?_owners howned]
  by_cases hlast : d.ownersAt p ≤ 1
  · simp only [if_pos hlast]
    have hcount := Grid.letterCount_set hp .blank
    rw [hlit] at hcount
    exact hcount.symm
  · simp only [if_neg hlast]
    rfl

/-- A claim returns how many letters the grid gains. -/
theorem letterCount_claimSquares {squares : List (Position × Char)}
    (hin : ∀ s ∈ squares, d.grid.Inside s.1) :
    (d.claimSquares squares).1.grid.letterCount =
      d.grid.letterCount + (d.claimSquares squares).2 := by
  induction squares generalizing d with
  | nil => rfl
  | cons s rest ih =>
    obtain ⟨p, letter⟩ := s
    have hp : d.grid.Inside p := hin (p, letter) (List.mem_cons_self ..)
    have hin' : ∀ s ∈ rest, (d.claimSquare p letter).1.grid.Inside s.1 := fun s hs =>
      (grid_inside_of_shape (shape_claimSquare ..)).mpr (hin s (List.mem_cons_of_mem _ hs))
    have hrest := ih (h.claimSquare hp letter) hin'
    rw [h.letterCount_claimSquare hp letter, Nat.add_assoc] at hrest
    exact hrest

/-- A release of squares that have owners returns how many letters the grid loses. -/
theorem letterCount_releaseSquares {squares : List Position} (hnodup : squares.Nodup)
    (hin : ∀ p ∈ squares, d.grid.Inside p) (howner : ∀ p ∈ squares, d.ownersAt p ≠ 0) :
    d.grid.letterCount =
      (d.releaseSquares squares).1.grid.letterCount + (d.releaseSquares squares).2 := by
  induction squares generalizing d with
  | nil => rfl
  | cons p rest ih =>
    have hp : d.grid.Inside p := hin p (List.mem_cons_self ..)
    have hfirst : d.ownersAt p ≠ 0 := howner p (List.mem_cons_self ..)
    obtain ⟨hnot, hnodup'⟩ := List.nodup_cons.mp hnodup
    have hin' : ∀ q ∈ rest, (d.releaseSquare p).1.grid.Inside q := fun q hq =>
      (grid_inside_of_shape (shape_releaseSquare ..)).mpr (hin q (List.mem_cons_of_mem _ hq))
    -- the first square is none of the others, so these keep their owners
    have howner' : ∀ q ∈ rest, (d.releaseSquare p).1.ownersAt q ≠ 0 := by
      intro q hq
      rw [ownersAt_releaseSquare (h.counted.inside_iff.mpr hp),
        if_neg fun e : p = q => hnot (e ▸ hq)]
      exact howner q (List.mem_cons_of_mem _ hq)
    have hrest := ih (h.releaseSquare hp hfirst) hnodup' hin' howner'
    rw [h.letterCount_releaseSquare hp hfirst, hrest]
    exact (Nat.add_assoc ..).trans (congrArg _ (Nat.add_comm ..))

end LitWhereOwned

namespace Bears

variable {d : Draft} {live : List PlacedWord} {entry : PlacedWord}

/-- Claiming a word on squares of the grid returns how many letters the grid gains. -/
theorem letterCount_claim (h : d.Bears live) {word : String} {a : Anchor} {p : Placement}
    (hp : Placement.ofAnchor? a word.length d.grid.rows d.grid.cols = some p) :
    (d.claim word p).1.grid.letterCount = d.grid.letterCount + (d.claim word p).2 :=
  h.litWhereOwned.letterCount_claimSquares fun s hs =>
    ((h.counted.squares_of_ofAnchor? hp).2 s hs).2

/-- Releasing a word that the draft bears returns how many letters the grid loses. -/
theorem letterCount_release (h : d.Bears (entry :: live)) :
    d.grid.letterCount =
      (d.release entry.placement).1.grid.letterCount + (d.release entry.placement).2 := by
  obtain ⟨hnodup, hboth⟩ := h.squares_released
  refine h.litWhereOwned.letterCount_releaseSquares hnodup (fun q hq => (hboth q hq).2) ?_
  intro q hq
  rw [h.count_released, if_pos hq]
  exact Nat.succ_ne_zero _

end Bears

end Draft

/-- A draft, and the words that own squares of it. A word that has been claimed more than once is
listed as often. -/
structure Ledger where
  draft : Draft
  live : List PlacedWord

namespace Ledger

/-- What can be done to a draft: claim a word at an anchor, or release a word. -/
inductive Step where
  | claim (word : String) (a : Anchor)
  | release (entry : PlacedWord)

/-- A blank grid with no owners. -/
def blank (rows cols : Nat) : Ledger := ⟨.onGrid (.blank rows cols) rows cols, []⟩

/-- Does a step, if it may be done: a word is claimed only where it fits, and released only if it is
live. The number that the claim or the release has returned comes with the result. -/
def step? (s : Ledger) : Step → Option (Ledger × Nat)
  | .claim word a =>
    if s.draft.grid.fits word a then
      (Placement.ofAnchor? a word.length s.draft.grid.rows s.draft.grid.cols).map fun p =>
        (⟨(s.draft.claim word p).1, .of word p :: s.live⟩, (s.draft.claim word p).2)
    else
      none
  | .release entry =>
    if entry ∈ s.live then
      some (⟨(s.draft.release entry.placement).1, s.live.erase entry⟩,
        (s.draft.release entry.placement).2)
    else
      none

/-- Does steps one after the other, if each of them may be done. -/
def steps? (s : Ledger) : List Step → Option Ledger
  | [] => some s
  | step :: rest => (s.step? step).bind fun t => t.1.steps? rest

/-- Holds if at no time in a history are there more words live than can be counted. -/
def Few (s : Ledger) (steps : List Step) : Prop :=
  ∀ before t, before <+: steps → s.steps? before = some t → t.live.length < 2 ^ 32

variable {s t : Ledger} {n : Nat}

/-- What a step that is done can be. -/
theorem step?_cases {step : Step} (h : s.step? step = some (t, n)) :
    (∃ word a p, step = .claim word a ∧ s.draft.grid.fits word a = true ∧
      Placement.ofAnchor? a word.length s.draft.grid.rows s.draft.grid.cols = some p ∧
      t = ⟨(s.draft.claim word p).1, .of word p :: s.live⟩ ∧ n = (s.draft.claim word p).2) ∨
    (∃ entry, step = .release entry ∧ entry ∈ s.live ∧
      t = ⟨(s.draft.release entry.placement).1, s.live.erase entry⟩ ∧
      n = (s.draft.release entry.placement).2) := by
  cases step with
  | claim word a =>
    by_cases hfits : s.draft.grid.fits word a = true
    · rw [step?, if_pos hfits] at h
      obtain ⟨p, hp, heq⟩ := Option.map_eq_some_iff.mp h
      obtain ⟨rfl, rfl⟩ := Prod.mk.inj heq
      exact Or.inl ⟨word, a, p, rfl, hfits, hp, rfl, rfl⟩
    · rw [step?, if_neg hfits] at h
      cases h
  | release entry =>
    by_cases hlive : entry ∈ s.live
    · rw [step?, if_pos hlive] at h
      obtain ⟨rfl, rfl⟩ := Prod.mk.inj (Option.some.inj h)
      exact Or.inr ⟨entry, rfl, hlive, rfl, rfl⟩
    · rw [step?, if_neg hlive] at h
      cases h

theorem steps?_cons_eq_some_iff {step : Step} {rest : List Step} :
    s.steps? (step :: rest) = some t ↔
      ∃ u n, s.step? step = some (u, n) ∧ u.steps? rest = some t := by
  simp [steps?, Option.bind_eq_some_iff]

/-- A step makes at most one word live. -/
theorem length_live_step {step : Step} (h : s.step? step = some (t, n)) :
    t.live.length ≤ s.live.length + 1 := by
  rcases step?_cases h with ⟨word, a, p, -, -, -, rfl, -⟩ | ⟨entry, -, -, rfl, -⟩
  · exact Nat.le_refl _
  · exact Nat.le_succ_of_le (List.erase_sublist.length_le)

theorem length_live_steps {steps : List Step} (h : s.steps? steps = some t) :
    t.live.length ≤ s.live.length + steps.length := by
  induction steps generalizing s with
  | nil =>
    obtain rfl : s = t := Option.some.inj h
    exact Nat.le_refl _
  | cons step rest ih =>
    obtain ⟨u, n, hstep, hrest⟩ := steps?_cons_eq_some_iff.mp h
    have hfirst := length_live_step hstep
    have hlater := ih hrest
    rw [List.length_cons]
    omega

/-- What holds of a whole history holds of what is left of it after the first step. -/
theorem Few.tail {step : Step} {rest : List Step} (h : s.Few (step :: rest))
    (hstep : s.step? step = some (t, n)) : t.live.length < 2 ^ 32 ∧ t.Few rest := by
  have hlater : t.Few rest := by
    intro before u hbefore hu
    refine h (step :: before) u ?_ (steps?_cons_eq_some_iff.mpr ⟨t, n, hstep, hu⟩)
    exact List.cons_prefix_cons.mpr ⟨rfl, hbefore⟩
  exact ⟨hlater [] t List.nil_prefix rfl, hlater⟩

/-- A history that is short enough never has too many words live. -/
theorem few_of_length_lt {rows cols : Nat} {steps : List Step} (h : steps.length < 2 ^ 32) :
    (blank rows cols).Few steps := by
  intro before t hbefore ht
  have hlive : t.live.length ≤ 0 + before.length := length_live_steps ht
  have hlength := hbefore.length_le
  omega

/-- A ledger is exact if its draft bears the words that are listed, on a grid of some size. -/
structure Exact (rows cols : Nat) (s : Ledger) : Prop where
  bears : s.draft.Bears s.live
  shape : s.draft.shape = ((rows, cols), (rows, cols))

theorem exact_blank (rows cols : Nat) : (blank rows cols).Exact rows cols where
  bears := Draft.bears_onGrid_blank rows cols
  shape := rfl

namespace Exact

variable {rows cols : Nat} (h : s.Exact rows cols)

include h

/-- Wherever a word fits it can be claimed, and the claim returns how many letters the grid
gains. -/
theorem exists_claim {word : String} {a : Anchor} (hfits : s.draft.grid.fits word a = true) :
    ∃ t n, s.step? (.claim word a) = some (t, n) ∧
      t.draft.grid.letterCount = s.draft.grid.letterCount + n := by
  obtain ⟨p, hp⟩ := Placement.exists_of_staysInside (Grid.fits_iff_letterAt?.mp hfits).1
  have hstep : s.step? (.claim word a) = some
      (⟨(s.draft.claim word p).1, .of word p :: s.live⟩, (s.draft.claim word p).2) := by
    rw [step?, if_pos hfits, hp, Option.map_some]
  exact ⟨_, _, hstep, h.bears.letterCount_claim hp⟩

/-- Any word that is live can be released, and the release returns how many letters the grid
loses. -/
theorem exists_release {entry : PlacedWord} (hlive : entry ∈ s.live) :
    ∃ t n, s.step? (.release entry) = some (t, n) ∧
      s.draft.grid.letterCount = t.draft.grid.letterCount + n :=
  ⟨_, _, if_pos hlive, (h.bears.perm (List.perm_cons_erase hlive)).letterCount_release⟩

/-- A step keeps a ledger exact, whichever of the live words it may release. -/
theorem step {step : Step} (hstep : s.step? step = some (t, n)) (hfew : t.live.length < 2 ^ 32) :
    t.Exact rows cols := by
  rcases step?_cases hstep with ⟨word, a, p, -, hfits, hp, rfl, -⟩ | ⟨entry, -, hlive, rfl, -⟩
  · -- the words that were live before the claim are one fewer than those after it
    exact ⟨h.bears.claim_of_fits hfits hp (Nat.lt_sub_of_add_lt hfew),
      (Draft.shape_claimSquares ..).trans h.shape⟩
  · exact ⟨(h.bears.perm (List.perm_cons_erase hlive)).release,
      (Draft.shape_releaseSquares ..).trans h.shape⟩

/-- A history keeps a ledger exact. -/
theorem steps {steps : List Step} (hsteps : s.steps? steps = some t) (hfew : s.Few steps) :
    t.Exact rows cols := by
  induction steps generalizing s with
  | nil =>
    obtain rfl : s = t := Option.some.inj hsteps
    exact h
  | cons step rest ih =>
    obtain ⟨u, n, hstep, hrest⟩ := steps?_cons_eq_some_iff.mp hsteps
    obtain ⟨hu, hlater⟩ := hfew.tail hstep
    exact ih (h.step hstep hu) hrest hlater

end Exact

/-- **Releases in any order.** After any history of claims and releases that begins with a blank
grid, as long as fewer words are live at each time than `2 ^ 32`: each square is owned as often as
live words cover it; it holds a letter just where a live word puts it, words that share a square
agreeing on it; and it is blank if no live word covers it. Another history with the same words live
at its end, in whatever order, ends with the same grid and the same counts. Wherever a word fits it
can be claimed next, and any live word can be released next; the claim returns how many letters the
grid gains, the release how many it loses. -/
theorem shows_what_is_live {rows cols : Nat} {steps : List Step}
    (hsteps : (blank rows cols).steps? steps = some s) (hfew : (blank rows cols).Few steps) :
    (∀ q, s.draft.ownersAt q = s.live.countP fun entry => q ∈ entry.placement.cells) ∧
    (∀ q c, s.draft.grid.get? q = some (.letter c) ↔ ∃ entry ∈ s.live, (q, c) ∈ entry.lettered) ∧
    (∀ v ∈ s.live, ∀ w ∈ s.live, ∀ q a b, (q, a) ∈ v.lettered → (q, b) ∈ w.lettered → a = b) ∧
    (∀ q, q.row < rows → q.col < cols → (∀ entry ∈ s.live, q ∉ entry.placement.cells) →
      s.draft.grid.get? q = some .blank) ∧
    (∀ steps' s', (blank rows cols).steps? steps' = some s' → (blank rows cols).Few steps' →
      s'.live.Perm s.live → s'.draft.grid = s.draft.grid ∧ s'.draft.owners = s.draft.owners) ∧
    (∀ word a, s.draft.grid.fits word a = true → ∃ t n, s.step? (.claim word a) = some (t, n) ∧
      t.draft.grid.letterCount = s.draft.grid.letterCount + n) ∧
    (∀ entry ∈ s.live, ∃ t n, s.step? (.release entry) = some (t, n) ∧
      s.draft.grid.letterCount = t.draft.grid.letterCount + n) := by
  have h : s.Exact rows cols := (exact_blank rows cols).steps hsteps hfew
  refine ⟨h.bears.owners, h.bears.letters, ?_, ?_, ?_, fun word a => h.exists_claim,
    fun entry => h.exists_release⟩
  · intro v hv w hw q a b
    exact h.bears.agree hv hw
  · intro q hr hc hnone
    have hin : s.draft.grid.Inside q :=
      (Draft.grid_inside_of_shape (d := (blank rows cols).draft) h.shape).mpr ⟨hr, hc⟩
    exact (h.bears.get?_eq_blank_iff hin).mpr (Draft.coverCount_eq_zero_iff.mpr hnone)
  · intro steps' s' hsteps' hfew' hperm
    have h' : s'.Exact rows cols := (exact_blank rows cols).steps hsteps' hfew'
    have hshape := h'.shape.trans h.shape.symm
    exact ⟨(h'.bears.perm hperm).grid_eq h.bears hshape,
      (h'.bears.perm hperm).owners_eq h.bears hshape⟩

/-- Of two words that cross, the first is released first. The other one keeps the letter that they
share, and owns it alone. -/
theorem shows_the_later_of_two_words :
    ∃ s, (blank 6 6).steps? [.claim "CAT" ⟨2, 1, .across⟩, .claim "ARC" ⟨2, 2, .down⟩,
        .release (.of "CAT" ⟨[⟨2, 1⟩, ⟨2, 2⟩, ⟨2, 3⟩], .across⟩)] = some s ∧
      s.draft.grid.get? ⟨2, 2⟩ = some (.letter 'A') ∧ s.draft.grid.get? ⟨2, 1⟩ = some .blank ∧
      s.draft.ownersAt ⟨2, 2⟩ = 1 := by
  have hlive : ((blank 6 6).steps? [.claim "CAT" ⟨2, 1, .across⟩, .claim "ARC" ⟨2, 2, .down⟩,
      .release (.of "CAT" ⟨[⟨2, 1⟩, ⟨2, 2⟩, ⟨2, 3⟩], .across⟩)]).map (·.live) =
        some [.of "ARC" ⟨[⟨2, 2⟩, ⟨3, 2⟩, ⟨4, 2⟩], .down⟩] := by cbv
  obtain ⟨s, hs, hlive⟩ := Option.map_eq_some_iff.mp hlive
  obtain ⟨howners, hletters, -, hblank, -⟩ :=
    shows_what_is_live hs (few_of_length_lt (by decide))
  rw [hlive] at howners hletters hblank
  refine ⟨s, hs, (hletters _ _).mpr ?_, hblank _ (by decide) (by decide) (by decide), howners _⟩
  exact ⟨_, List.mem_singleton_self _, by decide⟩

end Ledger

end Crossword
