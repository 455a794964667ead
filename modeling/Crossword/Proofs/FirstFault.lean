import Crossword.Proofs.Consistency

/-!
# The disagreement that is reported

The check of a layout stops at the first disagreement. Words are looked at in the order in which
they were placed, each of them for its shape before its letters, and letters without a word only if
all words agree with the grid; `Layout.FirstFault` says which disagreement comes first in this
order, without the loops of the check.

Main result: `Layout.check_reports_first`. The check accepts a layout just if there is nothing to
disagree about, and what it reports is the first disagreement.
-/

namespace Crossword

/-- The squares of a board are listed in reading order. -/
theorem Board.pairwise_positions {α : Type} (b : Board α) :
    b.positions.Pairwise fun p q => p.le q = true := by
  refine List.pairwise_flatMap.mpr ⟨fun r _ => ?_, ?_⟩
  · rw [List.pairwise_map]
    refine List.pairwise_lt_range.imp fun hlt => ?_
    exact Position.le_iff.mpr (Or.inr ⟨rfl, Nat.le_of_lt hlt⟩)
  · refine List.pairwise_lt_range.imp fun hlt p hp q hq => ?_
    obtain ⟨c, -, rfl⟩ := List.mem_map.mp hp
    obtain ⟨d, -, rfl⟩ := List.mem_map.mp hq
    exact Position.le_iff.mpr (Or.inl hlt)

namespace PlacedWord

/-! ## One word -/

/-- Holds of a word with as many squares as letters, each one step of its direction after the one
before it. -/
structure Straight (entry : PlacedWord) : Prop where
  length : entry.placement.cells.length = entry.word.length
  steps : ∀ (i : Nat) (p q : Position), entry.placement.cells[i]? = some p →
    entry.placement.cells[i + 1]? = some q →
    q.row = p.row + entry.placement.orientation.rowStep ∧
      q.col = p.col + entry.placement.orientation.colStep

/-- Holds if the word's square at a place lies on the grid and holds its letter at that place. -/
def LetterOn (entry : PlacedWord) (g : Grid) (i : Nat) : Prop :=
  ∀ q c, entry.placement.cells[i]? = some q → entry.word.toList[i]? = some c →
    g.get? q = some (.letter c)

/-- Holds of a straight word with all of its letters on the grid. -/
structure Agrees (entry : PlacedWord) (g : Grid) : Prop where
  straight : entry.Straight
  letters : ∀ i, entry.LetterOn g i

variable {entry : PlacedWord} {g : Grid} {q : Position} {c : Char} {e : Error}

theorem isStraight_iff_straight : entry.isStraight = true ↔ entry.Straight := by
  rw [isStraight_iff, Placement.isContiguous, Placement.contiguousIn_iff]
  exact ⟨fun h => ⟨h.1, h.2⟩, fun h => ⟨h.length, h.steps⟩⟩

/-- A letter is paired with the square at its place. -/
theorem getElem?_lettered_eq_some_iff {i : Nat} : entry.lettered[i]? = some (q, c) ↔
    entry.placement.cells[i]? = some q ∧ entry.word.toList[i]? = some c := by
  rw [entry.lettered_eq, Placement.lettered, List.getElem?_zip_eq_some]

/-- The check of a word accepts it just if it agrees. -/
theorem check_eq_ok_iff_agrees : entry.check g = .ok () ↔ entry.Agrees g := by
  rw [check_eq_ok_iff, isStraight_iff_straight]
  refine ⟨fun h => ⟨h.1, fun i q c hq hc => ?_⟩, fun h => ⟨h.straight, fun q c hmem => ?_⟩⟩
  · exact h.2 q c (List.mem_of_getElem? (getElem?_lettered_eq_some_iff.mpr ⟨hq, hc⟩))
  · obtain ⟨i, hi⟩ := List.mem_iff_getElem?.mp hmem
    obtain ⟨hq, hc⟩ := getElem?_lettered_eq_some_iff.mp hi
    exact h.letters i q c hq hc

/-- The first square without its letter is found if those before it have theirs. -/
theorem find?_wrong_eq_some_iff :
    entry.lettered.find? (fun (p, letter) => g.get? p ≠ some (.letter letter)) = some (q, c) ↔
      ∃ i : Nat, entry.placement.cells[i]? = some q ∧ entry.word.toList[i]? = some c ∧
        (∀ j < i, entry.LetterOn g j) ∧ g.get? q ≠ some (.letter c) := by
  rw [List.find?_eq_some_iff_getElem]
  refine ⟨fun h => ?_, fun h => ?_⟩
  · obtain ⟨hwrong, i, hi, heq, hbefore⟩ := h
    have hpair := List.getElem?_eq_some_iff.mpr ⟨hi, heq⟩
    obtain ⟨hq, hc⟩ := getElem?_lettered_eq_some_iff.mp hpair
    refine ⟨i, hq, hc, fun j hj p d hp hd => ?_, of_decide_eq_true hwrong⟩
    obtain ⟨hjlt, hjeq⟩ :=
      List.getElem?_eq_some_iff.mp (getElem?_lettered_eq_some_iff.mpr ⟨hp, hd⟩)
    simpa [hjeq] using hbefore j hj
  · obtain ⟨i, hq, hc, hbefore, hwrong⟩ := h
    obtain ⟨hi, heq⟩ := List.getElem?_eq_some_iff.mp (getElem?_lettered_eq_some_iff.mpr ⟨hq, hc⟩)
    refine ⟨decide_eq_true hwrong, i, hi, heq, fun j hj => ?_⟩
    obtain ⟨hp, hd⟩ := getElem?_lettered_eq_some_iff.mp
      (List.getElem?_eq_getElem (Nat.lt_trans hj hi))
    simpa using hbefore j hj _ _ hp hd

/-- Holds of the square and the disagreement that come first for a word: its shape, on its first
square or in the corner if it has none, or else the first of its letters that is not on the grid. -/
inductive Fault (entry : PlacedWord) (g : Grid) : Position → Disagreement → Prop
  | shape (hshape : ¬ entry.Straight) :
      Fault entry g (entry.placement.start?.getD .origin) (.notStraight entry.word)
  | letter {i : Nat} {q : Position} {c : Char} (hstraight : entry.Straight)
      (hq : entry.placement.cells[i]? = some q) (hc : entry.word.toList[i]? = some c)
      (hbefore : ∀ j < i, entry.LetterOn g j) (hwrong : g.get? q ≠ some (.letter c)) :
      Fault entry g q (.wrongLetter c entry.word)

/-- The check of a word reports what comes first. -/
theorem check_eq_error_iff : entry.check g = .error e ↔
    ∃ q reason, e = .invariantViolation q.row q.col reason ∧ entry.Fault g q reason := by
  unfold check
  by_cases hstraight : entry.Straight
  · rw [if_pos (isStraight_iff_straight.mpr hstraight)]
    refine ⟨fun h => ?_, fun h => ?_⟩
    · split at h
      · cases h
      · next q c hfind =>
        obtain ⟨i, hq, hc, hbefore, hwrong⟩ := find?_wrong_eq_some_iff.mp hfind
        exact ⟨q, _, (Except.error.inj h).symm, .letter hstraight hq hc hbefore hwrong⟩
    · obtain ⟨q, reason, rfl, hfault⟩ := h
      cases hfault with
      | shape hshape => exact absurd hstraight hshape
      | letter _ hq hc hbefore hwrong =>
        rw [find?_wrong_eq_some_iff.mpr ⟨_, hq, hc, hbefore, hwrong⟩]
  · rw [if_neg fun h => hstraight (isStraight_iff_straight.mp h)]
    refine ⟨fun h => ⟨_, _, (Except.error.inj h).symm, .shape hstraight⟩, fun h => ?_⟩
    obtain ⟨q, reason, rfl, hfault⟩ := h
    cases hfault with
    | shape _ => rfl
    | letter h => exact absurd h hstraight

end PlacedWord

namespace Layout

/-! ## Whole layouts -/

/-- Holds of the square and the disagreement that come first for a layout: those of its first word
that does not agree with the grid; or, if all words agree, the first letter in reading order that
stands on no square of a word. -/
inductive FirstFault (l : Layout) (g : Grid) : Position → Disagreement → Prop
  | word {pre post : List PlacedWord} {entry : PlacedWord} {q : Position} {reason : Disagreement}
      (hsplit : l.entries = pre ++ entry :: post) (hpre : ∀ v ∈ pre, v.Agrees g)
      (hfault : entry.Fault g q reason) : FirstFault l g q reason
  | unowned {q : Position} (hagree : ∀ entry ∈ l.entries, entry.Agrees g)
      (hlit : g.lit q = true) (hnot : ∀ entry ∈ l.entries, q ∉ entry.placement.cells)
      (hbefore : ∀ p, g.lit p = true → (∀ entry ∈ l.entries, p ∉ entry.placement.cells) →
        q.le p = true) : FirstFault l g q .unowned

variable {l : Layout} {g : Grid} {q : Position} {e : Error}

theorem not_mem_squares_iff :
    q ∉ l.squares ↔ ∀ entry ∈ l.entries, q ∉ entry.placement.cells := by
  rw [mem_squares]
  exact ⟨fun h entry he hq => h ⟨entry, he, hq⟩, fun h hex => by
    obtain ⟨entry, he, hq⟩ := hex
    exact h entry he hq⟩

/-- The letter without a word that is found is the first in reading order. -/
theorem find?_unowned_eq_some_iff : g.litSquares.find? (fun p => !l.owned.contains p) = some q ↔
    (g.lit q = true ∧ q ∉ l.squares) ∧
      ∀ p, g.lit p = true → p ∉ l.squares → q.le p = true := by
  have hsorted : g.litSquares.Pairwise fun p q => p.le q = true := by
    rw [Grid.litSquares_eq]
    exact (Board.pairwise_positions g).filter _
  have howned : ∀ p, (!l.owned.contains p) = true ↔ p ∉ l.squares := by
    intro p
    rw [Bool.not_eq_true', ← Bool.not_eq_true, Std.HashSet.contains_iff_mem, mem_owned]
  -- whatever is found comes before all others that could have been
  have hfirst : ∀ {r}, g.litSquares.find? (fun p => !l.owned.contains p) = some r →
      (g.lit r = true ∧ r ∉ l.squares) ∧
        ∀ p, g.lit p = true → p ∉ l.squares → r.le p = true := by
    intro r hfind
    obtain ⟨hnot, before, after, hsplit, hbefore⟩ := List.find?_eq_some_iff_append.mp hfind
    refine ⟨⟨Grid.mem_litSquares.mp (List.mem_of_find?_eq_some hfind), (howned r).mp hnot⟩, ?_⟩
    intro p hlit hp
    have hmem := Grid.mem_litSquares.mpr hlit
    rw [hsplit] at hmem hsorted
    rcases List.mem_append.mp hmem with hpre | hpost
    · exact absurd ((howned p).mpr hp) (by simpa using hbefore p hpre)
    rcases List.mem_cons.mp hpost with rfl | hpost
    · exact Position.le_refl p
    · exact List.rel_of_pairwise_cons (List.pairwise_append.mp hsorted).2.1 hpost
  refine ⟨hfirst, fun h => ?_⟩
  obtain ⟨⟨hlit, hnot⟩, hbefore⟩ := h
  cases hfind : g.litSquares.find? fun p => !l.owned.contains p with
  | none =>
    have hall := List.find?_eq_none.mp hfind q (Grid.mem_litSquares.mpr hlit)
    exact absurd ((howned q).mpr hnot) hall
  | some r =>
    obtain ⟨⟨hlit', hnot'⟩, hbefore'⟩ := hfirst hfind
    rw [Position.le_antisymm (hbefore' q hlit hnot) (hbefore r hlit' hnot')]

/-- Letters without a word are reported by the first of them. -/
theorem checkOwned_eq_error_iff : l.checkOwned g = .error e ↔
    ∃ q, e = .invariantViolation q.row q.col .unowned ∧ (g.lit q = true ∧ q ∉ l.squares) ∧
      ∀ p, g.lit p = true → p ∉ l.squares → q.le p = true := by
  simp only [checkOwned]
  refine ⟨fun h => ?_, fun h => ?_⟩
  · split at h
    · cases h
    · next q hfind => exact ⟨q, (Except.error.inj h).symm, find?_unowned_eq_some_iff.mp hfind⟩
  · obtain ⟨q, rfl, hfirst⟩ := h
    rw [find?_unowned_eq_some_iff.mpr hfirst]

/-- **The check reports the first disagreement.** It accepts a layout just if each word is straight
and has its letters on the grid, and each letter of the grid stands on a square of a word. It
reports an error just if this is the first disagreement, with the square on which it is found. -/
theorem check_reports_first (l : Layout) (g : Grid) :
    (l.check g = .ok () ↔ (∀ entry ∈ l.entries, entry.Agrees g) ∧
      ∀ q, g.lit q = true → ∃ entry ∈ l.entries, q ∈ entry.placement.cells) ∧
    ∀ e, l.check g = .error e ↔
      ∃ q reason, e = .invariantViolation q.row q.col reason ∧ l.FirstFault g q reason := by
  refine ⟨?_, fun e => ?_⟩
  · rw [check_eq_ok_iff]
    refine ⟨fun h => ⟨fun entry he => ?_, fun q hlit => mem_squares.mp (h.owned q hlit)⟩,
      fun h => ?_⟩
    · exact PlacedWord.check_eq_ok_iff_agrees.mp
        (PlacedWord.check_eq_ok_iff.mpr ⟨h.straight entry he, h.letters entry he⟩)
    · have hwords := fun entry he => PlacedWord.check_eq_ok_iff.mp
        (PlacedWord.check_eq_ok_iff_agrees.mpr (h.1 entry he))
      exact ⟨fun entry he => (hwords entry he).1, fun entry he => (hwords entry he).2,
        fun q hlit => mem_squares.mpr (h.2 q hlit)⟩
  · rw [check_eq_error_iff_or, forM_eq_error_iff, checkOwned_eq_error_iff]
    simp only [PlacedWord.check_eq_ok_iff_agrees, PlacedWord.check_eq_error_iff,
      not_mem_squares_iff]
    refine ⟨fun h => ?_, fun h => ?_⟩
    · rcases h with ⟨pre, entry, post, hsplit, hpre, q, reason, rfl, hfault⟩ |
        ⟨hagree, q, rfl, ⟨hlit, hnot⟩, hbefore⟩
      · exact ⟨q, reason, rfl, .word hsplit hpre hfault⟩
      · exact ⟨q, .unowned, rfl, .unowned hagree hlit hnot hbefore⟩
    · obtain ⟨q, reason, rfl, hfault⟩ := h
      cases hfault with
      | word hsplit hpre hfault =>
        exact Or.inl ⟨_, _, _, hsplit, hpre, q, reason, rfl, hfault⟩
      | unowned hagree hlit hnot hbefore =>
        exact Or.inr ⟨hagree, q, rfl, ⟨hlit, hnot⟩, hbefore⟩

/-- A letter that the first word misses is reported, whatever is wrong with the words after it. -/
theorem check_reports_missing_letter :
    let l := (empty.push "CAT" ⟨[⟨0, 0⟩, ⟨0, 1⟩, ⟨0, 2⟩], .across⟩).push "DOG" ⟨[], .down⟩
    let g := (Grid.ofLines? ["CUT."]).getD (Grid.blank 0 0)
    l.check g = .error (.invariantViolation 0 1 (.wrongLetter 'A' "CAT")) := by
  intro l g
  let cat := PlacedWord.of "CAT" ⟨[⟨0, 0⟩, ⟨0, 1⟩, ⟨0, 2⟩], .across⟩
  have hsplit : l.entries = [] ++ cat :: [.of "DOG" ⟨[], .down⟩] := rfl
  have hstraight : cat.Straight := PlacedWord.isStraight_iff_straight.mp (by decide)
  have hfirst : ∀ j < 1, cat.LetterOn g j := by
    intro j hj q c hq hc
    obtain rfl : j = 0 := Nat.lt_one_iff.mp hj
    obtain rfl : ⟨0, 0⟩ = q := Option.some.inj hq
    have hletter : cat.word.toList[0]? = some 'C' := by decide +kernel
    obtain rfl : 'C' = c := Option.some.inj (hletter.symm.trans hc)
    decide +kernel
  have hletter : cat.word.toList[1]? = some 'A' := by decide +kernel
  have hwrong : g.get? ⟨0, 1⟩ ≠ some (.letter 'A') := by decide +kernel
  exact ((check_reports_first l g).2 _).mpr ⟨⟨0, 1⟩, _, rfl, .word hsplit (by simp)
    (.letter hstraight (show cat.placement.cells[1]? = _ from rfl) hletter hfirst hwrong)⟩

end Layout

end Crossword
