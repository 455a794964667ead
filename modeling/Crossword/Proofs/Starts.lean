import Mathlib
import Crossword.Proofs.Translation

/-!
# Words in the order in which they begin

The words of each direction are listed in reading order of their first squares, and so are the
squares of the trimmed grid at which words begin. Reading order is the lexicographic order of rows
and columns, in which a word without squares comes before all others (`Position.readingKey`).
Sorting does not move words past each other that begin at one square (`filter_mergeSort_of_alike`),
so these stay in the order in which they were placed. A square at which words begin is listed once,
as it is seen from the corner; it is missing only if it cannot be seen from there, which does not
happen if the words agree with the grid.

Main result: `Puzzle.lists_every_word`.
-/

namespace Crossword

/-- Sorting leaves items that compare alike in their order. -/
theorem filter_mergeSort_of_alike {α : Type} {le : α → α → Bool}
    (htrans : ∀ a b c, le a b = true → le b c = true → le a c = true)
    (htotal : ∀ a b, (le a b || le b a) = true) {test : α → Bool}
    (halike : ∀ a b, test a = true → test b = true → le a b = true) (items : List α) :
    (items.mergeSort le).filter test = items.filter test := by
  have hsorted : (items.filter test).Pairwise fun a b => le a b = true :=
    List.pairwise_of_forall_mem_list fun a ha b hb =>
      halike a b (List.mem_filter.mp ha).2 (List.mem_filter.mp hb).2
  -- in sorted order already, they are found in the sorted list one after the other
  have hkept : (items.filter test).Sublist ((items.mergeSort le).filter test) := by
    have hsub := (List.sublist_mergeSort htrans htotal hsorted List.filter_sublist).filter test
    simpa only [List.filter_filter, Bool.and_self] using hsub
  have hlength := ((List.mergeSort_perm items le).filter test).length_eq
  exact (hkept.eq_of_length hlength.symm).symm

namespace Position

/-- The place of a square in reading order: rows first, then columns. What has no square comes
first of all. -/
def readingKey : Option Position → WithBot (ℕ ×ₗ ℕ)
  | none => ⊥
  | some p => (toLex (p.row, p.col) : ℕ ×ₗ ℕ)

theorem le_iff_readingKey_le {p q : Position} :
    p.le q = true ↔ readingKey (some p) ≤ readingKey (some q) := by
  rw [le_iff, readingKey, readingKey, WithBot.coe_le_coe, Prod.Lex.toLex_le_toLex]

theorem leOption_iff_readingKey_le {p q : Option Position} :
    leOption p q = true ↔ readingKey p ≤ readingKey q := by
  cases p with
  | none => simp [leOption, readingKey]
  | some p =>
    cases q with
    | none => simp [leOption, readingKey]
    | some q => exact le_iff_readingKey_le

/-- Of two squares in reading order that are not the same, the first comes earlier. -/
theorem readingKey_lt_of_le {p q : Position} (hle : p.le q = true) (hne : p ≠ q) :
    readingKey (some p) < readingKey (some q) :=
  lt_of_not_ge fun hge => hne (le_antisymm hle (le_iff_readingKey_le.mpr hge))

end Position

/-- Holds of a list of the words that a layout places in a direction, sorted by where they begin. -/
structure Layout.Lists (l : Layout) (o : Orientation) (listed : List PlacedWord) : Prop where
  /-- The words of the direction, each as often as it was placed. -/
  perm : listed.Perm (l.entries.filter fun entry => entry.placement.orientation = o)
  /-- They are in reading order of their first squares, those without squares being first. -/
  ordered : listed.Pairwise fun v w =>
    Position.readingKey v.placement.start? ≤ Position.readingKey w.placement.start?
  /-- Words that begin at one square, and words without squares, are in the order in which they were
  placed. -/
  stable : ∀ start, listed.filter (fun entry => entry.placement.start? = start) =
    l.entries.filter fun entry =>
      entry.placement.start? = start ∧ entry.placement.orientation = o

namespace Puzzle

/-! ## The words of each direction -/

/-- The words of one direction are in the order in which they begin. -/
theorem pairwise_wordsIn (p : Puzzle) (o : Orientation) : (p.wordsIn o).Pairwise fun v w =>
    Position.leOption v.placement.start? w.placement.start? = true := by
  apply List.pairwise_mergeSort
  · intro u v w
    exact Position.leOption_trans
  · intro v w
    exact Position.leOption_total ..

/-- Each placed word is one of the words across or one of the words down. -/
theorem perm_across_down (p : Puzzle) : (p.across ++ p.down).Perm p.layout.entries := by
  have hdown : ∀ entry : PlacedWord, decide (entry.placement.orientation = .down) =
      !decide (entry.placement.orientation = .across) := by
    intro entry
    cases entry.placement.orientation <;> rfl
  refine (List.Perm.append (List.mergeSort_perm ..) (List.mergeSort_perm ..)).trans ?_
  simp only [hdown]
  exact List.filter_append_perm ..

theorem perm_wordsIn (p : Puzzle) :
    (Orientation.all.flatMap p.wordsIn).Perm p.layout.entries := by
  have hall : Orientation.all.flatMap p.wordsIn = p.across ++ p.down := by
    simp [Orientation.all, across, down]
  rw [hall]
  exact p.perm_across_down

/-- The words of a direction are listed as they begin. -/
theorem lists_wordsIn (p : Puzzle) (o : Orientation) : p.layout.Lists o (p.wordsIn o) where
  perm := List.mergeSort_perm ..
  ordered := (p.pairwise_wordsIn o).imp Position.leOption_iff_readingKey_le.mp
  stable start := by
    unfold wordsIn
    rw [filter_mergeSort_of_alike, List.filter_filter]
    · simp only [Bool.decide_and]
    · intro u v w
      exact Position.leOption_trans
    · intro v w
      exact Position.leOption_total ..
    · intro v w hv hw
      rw [of_decide_eq_true hv, of_decide_eq_true hw]
      exact Position.leOption_iff_readingKey_le.mpr (le_refl _)

/-! ## The squares at which words begin -/

/-- Each square is listed once, in reading order. -/
theorem pairwise_wordStarts (p : Puzzle) : p.wordStarts.Pairwise fun q r =>
    Position.readingKey (some q) < Position.readingKey (some r) := by
  have hsorted : p.wordStarts.Pairwise fun q r => q.le r = true := by
    apply List.pairwise_mergeSort
    · intro q r s
      exact Position.le_trans
    · intro q r
      exact Position.le_total ..
  have hnodup : p.wordStarts.Nodup :=
    (List.mergeSort_perm ..).nodup_iff.mpr (nodup_distinct _)
  exact hsorted.imp₂ (fun _ _ => Position.readingKey_lt_of_le) hnodup

/-- A square is listed if some word begins as far from the corner. -/
theorem mem_wordStarts_iff {p : Puzzle} {q : Position} : q ∈ p.wordStarts ↔
    ∃ entry ∈ p.layout.entries, entry.placement.start? = some (q.plus p.corner) := by
  rw [mem_wordStarts]
  simp only [Position.minus?_eq_some_iff, exists_eq_right]

/-- In a puzzle of a grid and a layout that agree, each word with squares is listed where it begins,
and there is a letter wherever a word is listed. -/
theorem starts_of_consistent {l : Layout} {g : Grid} (h : l.Consistent g)
    (statistics : Statistics) :
    (∀ entry ∈ l.entries, entry.placement.cells ≠ [] →
      ∃ q ∈ (ofSearch g l statistics).wordStarts,
        entry.placement.start? = some (q.plus g.trim.2)) ∧
    ∀ q ∈ (ofSearch g l statistics).wordStarts, g.trim.1.lit q = true := by
  have hlit : ∀ entry ∈ l.entries, ∀ start, entry.placement.start? = some start →
      g.lit start = true := by
    intro entry he start hstart
    exact h.lit_iff.mpr (Layout.mem_squares.mpr ⟨entry, he, List.mem_of_head? hstart⟩)
  refine ⟨fun entry he hne => ?_, fun q hq => ?_⟩
  · have hstart : entry.placement.start? = some (entry.placement.cells.head hne) :=
      List.head?_eq_some_head hne
    -- a square with a letter can be seen from the corner
    obtain ⟨q, hq⟩ := Grid.exists_plus_of_lit (hlit entry he _ hstart)
    rw [← hq] at hstart
    exact ⟨q, mem_wordStarts_iff.mpr ⟨entry, he, hstart⟩, hstart⟩
  · obtain ⟨entry, he, hstart⟩ := mem_wordStarts_iff.mp hq
    exact (Grid.lit_trim g q).trans (hlit entry he _ hstart)

/-- **No word is lost and none is invented.** Whatever the grid and the layout of a puzzle, the
words across and the words down are all placed words; those of each direction are in reading order
of their first squares, and in the order in which they were placed where these are the same. The
squares at which words begin are in strict reading order, and they are just those first squares that
can be seen from the corner. If the layout agrees with the grid, each word with squares is among
them, and there is a letter on each. -/
theorem lists_every_word (g : Grid) (l : Layout) (statistics : Statistics) :
    let p := ofSearch g l statistics
    ((p.across ++ p.down).Perm l.entries ∧ l.Lists .across p.across ∧ l.Lists .down p.down) ∧
    (p.wordStarts.Pairwise (fun q r =>
        Position.readingKey (some q) < Position.readingKey (some r)) ∧
      ∀ q, q ∈ p.wordStarts ↔
        ∃ entry ∈ l.entries, entry.placement.start? = some (q.plus p.corner)) ∧
    (l.check g = .ok () →
      (∀ entry ∈ l.entries, entry.placement.cells ≠ [] →
        ∃ q ∈ p.wordStarts, entry.placement.start? = some (q.plus p.corner)) ∧
      ∀ q ∈ p.wordStarts, p.grid.lit q = true) := by
  intro p
  refine ⟨⟨p.perm_across_down, p.lists_wordsIn .across, p.lists_wordsIn .down⟩,
    ⟨p.pairwise_wordStarts, fun q => mem_wordStarts_iff⟩, fun hcheck => ?_⟩
  exact starts_of_consistent (Layout.check_eq_ok_iff.mp hcheck) statistics

/-- Two words begin in one square, one of them is placed twice, and one has no squares. -/
theorem lists_every_word_of_two_words :
    let l := (((Layout.empty.push "CAT" ⟨[⟨1, 2⟩, ⟨2, 2⟩, ⟨3, 2⟩], .down⟩).push "" ⟨[], .down⟩).push
      "CO" ⟨[⟨1, 2⟩, ⟨1, 3⟩], .across⟩).push "CAT" ⟨[⟨1, 2⟩, ⟨2, 2⟩, ⟨3, 2⟩], .down⟩
    let g := (Grid.ofLines? [".....", "..CO.", "..A..", "..T.."]).getD (Grid.blank 0 0)
    let p := ofSearch g l {}
    l.check g = .ok () ∧ l.Lists .down p.down ∧ p.down.map (·.word) = ["", "CAT", "CAT"] ∧
    p.wordStarts = [⟨0, 0⟩] ∧ p.grid.lit ⟨0, 0⟩ = true := by
  intro l g p
  have hcheck : l.check g = .ok () := by
    subst l g
    cbv
  have hstarts : p.wordStarts = [⟨0, 0⟩] := by
    subst p g l
    cbv
  obtain ⟨⟨-, -, hdown⟩, -, hlit⟩ := lists_every_word g l {}
  refine ⟨hcheck, hdown, by subst p g l; cbv, hstarts, (hlit hcheck).2 ⟨0, 0⟩ ?_⟩
  rw [hstarts]
  exact List.mem_singleton_self _

end Puzzle

end Crossword
