import Crossword.Layout.Consistency
import Crossword.Proofs.Squares

/-!
# What the check of a layout says

A layout is consistent with a grid if its words lie straight, their letters are on the grid, and
every letter of the grid is one of theirs (`Layout.Consistent`). The check accepts just these
layouts (`Layout.check_eq_ok_iff`), so a fact about checked layouts is read off the three
properties, and nothing else has to know in which order the check looks at words and squares.
-/

namespace Crossword

/-- What is refused is not accepted. -/
theorem error_ne_ok {e : Error} : (.error e : Except Error Unit) ≠ .ok () := by
  intro h
  cases h

/-- A list passes a check if each of its items does. -/
theorem forM_eq_ok_iff {α : Type} {check : α → Except Error Unit} {items : List α} :
    forM items check = Except.ok () ↔ ∀ x ∈ items, check x = .ok () := by
  induction items with
  | nil => exact iff_of_true rfl (by simp)
  | cons x rest ih =>
    rw [List.forM_cons, List.forall_mem_cons, ← ih]
    cases check x with
    | error e => exact iff_of_false error_ne_ok fun h => error_ne_ok h.1
    | ok _ => exact ⟨fun h => ⟨rfl, h⟩, fun h => h.2⟩

/-- An error for a list is that of its first item that does not pass. -/
theorem forM_eq_error_iff {α : Type} {check : α → Except Error Unit} {items : List α} {e : Error} :
    forM items check = Except.error e ↔ ∃ pre x post, items = pre ++ x :: post ∧
      (∀ y ∈ pre, check y = .ok ()) ∧ check x = .error e := by
  induction items with
  | nil =>
    refine iff_of_false (fun h => nomatch h) fun h => ?_
    obtain ⟨pre, x, post, hsplit, -⟩ := h
    simp at hsplit
  | cons x rest ih =>
    rw [List.forM_cons]
    cases hx : check x with
    | error e' =>
      refine ⟨fun h => ?_, fun h => ?_⟩
      · obtain rfl : e' = e := Except.error.inj h
        exact ⟨[], x, rest, rfl, by simp, hx⟩
      · obtain ⟨pre, y, post, hsplit, hpre, hy⟩ := h
        cases pre with
        | nil =>
          obtain ⟨rfl, rfl⟩ := List.cons.inj hsplit
          exact hx.symm.trans hy
        | cons z pre =>
          obtain ⟨rfl, rfl⟩ := List.cons.inj hsplit
          exact absurd (hx.symm.trans (hpre x (List.mem_cons_self ..))) error_ne_ok
    | ok _ =>
      have hrest : forM rest check = Except.error e ↔ _ := ih
      refine hrest.trans ⟨fun h => ?_, fun h => ?_⟩
      · obtain ⟨pre, y, post, rfl, hpre, hy⟩ := h
        exact ⟨x :: pre, y, post, rfl, List.forall_mem_cons.mpr ⟨hx, hpre⟩, hy⟩
      · obtain ⟨pre, y, post, hsplit, hpre, hy⟩ := h
        cases pre with
        | nil =>
          obtain ⟨rfl, rfl⟩ := List.cons.inj hsplit
          exact absurd (hy.symm.trans hx) error_ne_ok
        | cons z pre =>
          obtain ⟨rfl, rfl⟩ := List.cons.inj hsplit
          exact ⟨pre, y, post, rfl, fun u hu => hpre u (List.mem_cons_of_mem _ hu), hy⟩

namespace PlacedWord

variable {entry : PlacedWord} {g : Grid} {q : Position} {c : Char}

/-- A word agrees with a grid if it lies straight and its letters are on the grid. -/
theorem check_eq_ok_iff : entry.check g = .ok () ↔ entry.isStraight = true ∧
    ∀ q c, (q, c) ∈ entry.lettered → g.get? q = some (.letter c) := by
  unfold check
  by_cases hstraight : entry.isStraight = true
  · rw [if_pos hstraight]
    split
    · next hnone =>
      refine iff_of_true rfl ⟨hstraight, fun q c hq => ?_⟩
      simpa using List.find?_eq_none.mp hnone (q, c) hq
    · next q c hfind =>
      refine iff_of_false error_ne_ok fun h => ?_
      have hright := h.2 q c (List.mem_of_find?_eq_some hfind)
      have hwrong := List.find?_some hfind
      simp [hright] at hwrong
  · rw [if_neg hstraight]
    exact iff_of_false error_ne_ok fun h => hstraight h.1

theorem exists_of_check_eq_error {e : Error} (h : entry.check g = .error e) :
    ∃ row col reason, e = .invariantViolation row col reason := by
  rw [check] at h
  split at h
  · split at h
    · cases h
    · exact ⟨_, _, _, (Except.error.inj h).symm⟩
  · exact ⟨_, _, _, (Except.error.inj h).symm⟩

end PlacedWord

/-- A layout is consistent with a grid if its words lie straight, each of their letters is on the
grid, and each letter of the grid stands on a square of a word. -/
structure Layout.Consistent (l : Layout) (g : Grid) : Prop where
  straight : ∀ entry ∈ l.entries, entry.isStraight = true
  letters : ∀ entry ∈ l.entries, ∀ q c, (q, c) ∈ entry.lettered → g.get? q = some (.letter c)
  owned : ∀ q, g.lit q = true → q ∈ l.squares

namespace Layout

variable {l : Layout} {g : Grid} {q : Position} {c : Char} {e : Error}

/-- The check accepts the layouts that are consistent with the grid. -/
theorem check_eq_ok_iff : l.check g = .ok () ↔ l.Consistent g := by
  have hsplit : l.check g = .ok () ↔
      (∀ entry ∈ l.entries, entry.check g = .ok ()) ∧ l.checkOwned g = .ok () := by
    rw [← forM_eq_ok_iff, check, List.forM_eq_forM]
    cases forM l.entries fun entry : PlacedWord => entry.check g with
    | error e => exact iff_of_false error_ne_ok fun h => error_ne_ok h.1
    | ok _ => exact ⟨fun h => ⟨rfl, h⟩, fun h => h.2⟩
  rw [hsplit, checkOwned_eq_ok_iff]
  simp only [PlacedWord.check_eq_ok_iff]
  refine ⟨fun h => ?_, fun h => ?_⟩
  · obtain ⟨hwords, howned⟩ := h
    exact ⟨fun entry he => (hwords entry he).1, fun entry he => (hwords entry he).2, howned⟩
  · exact ⟨fun entry he => ⟨h.straight entry he, h.letters entry he⟩, h.owned⟩

/-- The check looks for letters without a word if all words pass. -/
theorem check_eq_error_iff_or : l.check g = .error e ↔
    forM l.entries (fun entry : PlacedWord => entry.check g) = .error e ∨
      (∀ entry ∈ l.entries, entry.check g = .ok ()) ∧ l.checkOwned g = .error e := by
  rw [← forM_eq_ok_iff, check, List.forM_eq_forM]
  cases forM l.entries fun entry : PlacedWord => entry.check g with
  | error e' => exact ⟨Or.inl, fun h => h.elim id fun h => absurd h.1 error_ne_ok⟩
  | ok _ => exact ⟨fun h => Or.inr ⟨rfl, h⟩, fun h => h.elim (fun h => nomatch h) (·.2)⟩

/-- A layout that disagrees with a grid is reported as a violation, and as nothing else. -/
theorem exists_of_check_eq_error (h : l.check g = .error e) :
    ∃ row col reason, e = .invariantViolation row col reason := by
  rcases check_eq_error_iff_or.mp h with hentries | ⟨-, howned⟩
  · obtain ⟨-, entry, -, -, -, hentry⟩ := forM_eq_error_iff.mp hentries
    exact PlacedWord.exists_of_check_eq_error hentry
  · rw [checkOwned] at howned
    split at howned
    · cases howned
    · exact ⟨_, _, _, (Except.error.inj howned).symm⟩

theorem mem_squares : q ∈ l.squares ↔ ∃ entry ∈ l.entries, q ∈ entry.placement.cells :=
  List.mem_flatMap

namespace Consistent

variable (h : l.Consistent g)

include h

/-- The letters of the grid stand on the squares of the words, and on no other. -/
theorem lit_iff : g.lit q = true ↔ q ∈ l.squares := by
  refine ⟨h.owned q, fun hq => ?_⟩
  obtain ⟨entry, he, hcell⟩ := mem_squares.mp hq
  obtain ⟨c, hc⟩ := (PlacedWord.mem_cells_iff (h.straight entry he)).mp hcell
  exact Grid.lit_iff.mpr ⟨c, h.letters entry he q c hc⟩

/-- The letters of the grid are those that the words put there. -/
theorem get?_eq_letter_iff :
    g.get? q = some (.letter c) ↔ ∃ entry ∈ l.entries, (q, c) ∈ entry.lettered := by
  refine ⟨fun hc => ?_, fun hex => ?_⟩
  · obtain ⟨entry, he, hcell⟩ := mem_squares.mp (h.owned q (Grid.lit_iff.mpr ⟨c, hc⟩))
    obtain ⟨d, hd⟩ := (PlacedWord.mem_cells_iff (h.straight entry he)).mp hcell
    have hsame : Cell.letter d = .letter c :=
      Option.some.inj ((h.letters entry he q d hd).symm.trans hc)
    exact ⟨entry, he, Cell.letter.inj hsame ▸ hd⟩
  · obtain ⟨entry, he, hc⟩ := hex
    exact h.letters entry he q c hc

end Consistent

end Layout

end Crossword
