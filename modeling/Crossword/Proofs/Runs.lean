import Crossword.Proofs.History
import Crossword.Proofs.Courses
import Mathlib

/-!
# Searches one after the other

A placer can be run any number of times, each run going on from the layout that the earlier ones
have left. `Placer.runs` makes such a sequence of runs, each with a clock and a stream of its own.

Main results: what holds of the draft after any sequence, however its runs ended, and of every
change made on the way; and that a run that fails leaves the draft as it was. Both follow from what
one run does (`Placer.sound_run`) by induction on the sequence.
-/

namespace Crossword

namespace Placer

/-- The walk that a run sets out with. -/
def walk (p : Placer) (stream : Keystream) : Walk :=
  ⟨p.draft, { p.statistics with attempts := p.statistics.attempts + 1 }, stream⟩

/-- Runs one after the other: how each of them ended, and the placer after the last. -/
def runs (p : Placer) : List (Clock × Keystream) → List Outcome × Placer
  | [] => ([], p)
  | (clock, stream) :: rest =>
    let (outcome, p, _) := p.run clock stream
    let (outcomes, p) := p.runs rest
    (outcome :: outcomes, p)

/-- All changes made to the draft in runs one after the other. -/
def history (p : Placer) : List (Clock × Keystream) → List Change
  | [] => []
  | (clock, stream) :: rest =>
    searchChanges p.budget clock true p.words (p.walk stream) ++
      (p.run clock stream).2.1.history rest

section Run

variable (p : Placer) (clock : Clock) (stream : Keystream)

@[simp] theorem words_run : (p.run clock stream).2.1.words = p.words := rfl

end Run

variable {p : Placer}

/-- A run that fails leaves a sound draft as it was. -/
theorem draft_run_of_failed {clock : Clock} {stream : Keystream} (hsound : p.draft.Sound)
    (hdeep : (p.run clock stream).2.1.statistics.deepest ≤ maxOwners)
    (hfail : (p.run clock stream).1 ≠ .solved) : (p.run clock stream).2.1.draft = p.draft :=
  restoring_sound.placeWords p.budget clock true p.words (p.walk stream) hsound hdeep hfail

/-- A run that succeeds adds the placer's words to the layout, and the draft stays sound. -/
theorem course_run_of_solved {clock : Clock} {stream : Keystream} (hsound : p.draft.Sound)
    (hdeep : (p.run clock stream).2.1.statistics.deepest ≤ maxOwners)
    (hsolved : (p.run clock stream).1 = .solved) :
    (∃ placed, placed.map Prod.fst = p.words ∧
      Course true p.draft placed (p.run clock stream).2.1.draft) ∧
      (p.run clock stream).2.1.draft.Sound :=
  course_of_solved (Prod.ext hsolved rfl) hsound hdeep

/-- A run that succeeds adds the placer's words to the layout, also where counts are full. -/
theorem words_run_of_solved {clock : Clock} {stream : Keystream} (hcounted : p.draft.Counted)
    (hsolved : (p.run clock stream).1 = .solved) :
    (p.run clock stream).2.1.draft.layout.entries.map (·.word) =
      p.draft.layout.entries.map (·.word) ++ p.words :=
  words_of_solved (w := p.walk stream) (Prod.ext hsolved rfl) hcounted

/-- Whatever comes of it, a run keeps a draft sound, and adds the placer's words to the layout or
nothing. -/
theorem sound_run {clock : Clock} {stream : Keystream} (hsound : p.draft.Sound)
    (hdeep : (p.run clock stream).2.1.statistics.deepest ≤ maxOwners) :
    (p.run clock stream).2.1.draft.Sound ∧
      (p.run clock stream).2.1.draft.shape = p.draft.shape ∧
      (p.run clock stream).2.1.draft.layout.entries.map (·.word) =
        p.draft.layout.entries.map (·.word) ++
          if (p.run clock stream).1 = .solved then p.words else [] := by
  by_cases hsolved : (p.run clock stream).1 = .solved
  · obtain ⟨⟨placed, hwords, hcourse⟩, hq⟩ := course_run_of_solved hsound hdeep hsolved
    rw [if_pos hsolved, ← hwords]
    exact ⟨hq, hcourse.shape, hcourse.words⟩
  · rw [draft_run_of_failed hsound hdeep hsolved, if_neg hsolved, List.append_nil]
    exact ⟨hsound, rfl, rfl⟩

theorem runs_cons (clock : Clock) (stream : Keystream) (rest : List (Clock × Keystream)) :
    p.runs ((clock, stream) :: rest) =
      ((p.run clock stream).1 :: ((p.run clock stream).2.1.runs rest).1,
        ((p.run clock stream).2.1.runs rest).2) := rfl

/-- The most words placed at one time do not become fewer in a run. -/
theorem deepest_le_run (clock : Clock) (stream : Keystream) :
    p.statistics.deepest ≤ (p.run clock stream).2.1.statistics.deepest :=
  deepest_le_placeWords p.budget clock true p.words (p.walk stream)

/-- They do not become fewer in a sequence of runs. -/
theorem deepest_le_runs (inputs : List (Clock × Keystream)) :
    p.statistics.deepest ≤ (p.runs inputs).2.statistics.deepest := by
  induction inputs generalizing p with
  | nil => exact Nat.le_refl _
  | cons input rest ih =>
    obtain ⟨clock, stream⟩ := input
    rw [runs_cons]
    exact Nat.le_trans (deepest_le_run clock stream) ih

/-- The draft stays sound in any sequence of runs, and its layout gets the placer's words once for
each run that succeeds. -/
theorem sound_runs {inputs : List (Clock × Keystream)} (hsound : p.draft.Sound)
    (hdeep : (p.runs inputs).2.statistics.deepest ≤ maxOwners) :
    (p.runs inputs).2.draft.Sound ∧ (p.runs inputs).2.draft.shape = p.draft.shape ∧
      (p.runs inputs).2.draft.layout.entries.map (·.word) =
        p.draft.layout.entries.map (·.word) ++
          (List.replicate ((p.runs inputs).1.count .solved) p.words).flatten := by
  induction inputs generalizing p with
  | nil => exact ⟨hsound, rfl, by simp [runs]⟩
  | cons input rest ih =>
    obtain ⟨clock, stream⟩ := input
    rw [runs_cons] at hdeep ⊢
    obtain ⟨hrun, hshape, hwords⟩ := sound_run hsound (Nat.le_trans (deepest_le_runs rest) hdeep)
    obtain ⟨hend, hshape', hwords'⟩ := ih hrun hdeep
    refine ⟨hend, hshape'.trans hshape, ?_⟩
    rw [hwords', hwords, words_run, List.append_assoc, List.count_cons]
    congr 1
    -- the first run counts if it is solved, and then its words come before those of the others
    by_cases hsolved : (p.run clock stream).1 = .solved
    · rw [if_pos hsolved, if_pos (beq_iff_eq.mpr hsolved), List.replicate_succ, List.flatten_cons]
    · rw [if_neg hsolved, if_neg fun h => hsolved (beq_iff_eq.mp h), List.nil_append,
        Nat.add_zero]

/-- Every change in a sequence of runs is made to a sound draft and with all counts in range. -/
theorem history_exact {inputs : List (Clock × Keystream)} (hsound : p.draft.Sound)
    (hdeep : (p.runs inputs).2.statistics.deepest ≤ maxOwners) :
    ∀ c ∈ p.history inputs, c.before.Sound ∧ c.InRange := by
  induction inputs generalizing p with
  | nil =>
    intro c hc
    cases hc
  | cons input rest ih =>
    obtain ⟨clock, stream⟩ := input
    rw [runs_cons] at hdeep
    have hrun : (p.run clock stream).2.1.statistics.deepest ≤ maxOwners :=
      Nat.le_trans (deepest_le_runs rest) hdeep
    intro c hc
    rcases List.mem_append.mp hc with hc | hc
    · exact searchChanges_exact p.budget clock hsound hrun c hc
    · exact ih (sound_run hsound hrun).1 hdeep c hc

/-- The changes of a sequence of runs lead from the first draft to the last. -/
theorem history_leads (inputs : List (Clock × Keystream)) :
    Leads p.draft (p.history inputs) (p.runs inputs).2.draft := by
  induction inputs generalizing p with
  | nil => exact rfl
  | cons input rest ih =>
    obtain ⟨clock, stream⟩ := input
    exact (searchChanges_leads p.budget clock true p.words (p.walk stream)).append
      (ih (p := (p.run clock stream).2.1))

/-- A placer is accepted if its words are. It starts with the words in order on a blank draft. -/
theorem ofWordsOnSide_eq_ok_iff {words : List String} {side : Nat} {budget : Budget} :
    ofWordsOnSide words side budget = .ok p ↔
      checkWords words side = .ok () ∧ p = onSide words side budget := by
  rw [ofWordsOnSide]
  cases checkWords words side with
  | error e =>
    constructor
    · intro h
      cases h
    · intro h
      cases h.1
  | ok _ =>
    constructor
    · intro h
      exact ⟨rfl, (Except.ok.inj h).symm⟩
    · intro h
      exact congrArg Except.ok h.2.symm

/-- **The search invariant.** After any sequence of runs of an accepted placer, with any budget,
clocks and streams, as long as at no time as many words are placed as cannot be counted: the layout
holds the ordered words once for each run that succeeded; every word lies straight on the grid; the
grid has just the letters that the words put there, words that share a square agreeing on it; each
square is owned as often as words cover it; and layout and grid pass the check. All the changes that
led there were made in range of the counts. -/
theorem sound_after_runs {words : List String} {side : Nat} {budget : Budget}
    (h : ofWordsOnSide words side budget = .ok p) (inputs : List (Clock × Keystream))
    (hfew : (p.runs inputs).2.statistics.deepest < 2 ^ 32) :
    let solved := (p.runs inputs).1.count .solved
    let d := (p.runs inputs).2.draft
    d.layout.entries.map (·.word) = (List.replicate solved (orderWords words)).flatten ∧
    (∀ entry ∈ d.layout.entries,
      entry.placement.cells.length = entry.word.length ∧
      (∀ q ∈ entry.placement.cells, q.row < side ∧ q.col < side) ∧
      entry.placement.isContiguous = true) ∧
    (∀ q c, d.grid.get? q = some (.letter c) ↔
      ∃ entry ∈ d.layout.entries, (q, c) ∈ entry.lettered) ∧
    (∀ v ∈ d.layout.entries, ∀ w ∈ d.layout.entries, ∀ q a b,
      (q, a) ∈ v.lettered → (q, b) ∈ w.lettered → a = b) ∧
    (∀ q, q.row < side → q.col < side →
      (∀ entry ∈ d.layout.entries, q ∉ entry.placement.cells) → d.grid.get? q = some .blank) ∧
    (∀ q, d.ownersAt q = d.layout.entries.countP fun entry => q ∈ entry.placement.cells) ∧
    (∀ c ∈ p.history inputs, c.before.Sound ∧ c.InRange) ∧
    Leads p.draft (p.history inputs) d ∧
    d.layout.check d.grid = .ok () := by
  intro solved d
  have hdeep : (p.runs inputs).2.statistics.deepest ≤ maxOwners := Nat.le_sub_one_of_lt hfew
  obtain ⟨-, rfl⟩ := ofWordsOnSide_eq_ok_iff.mp h
  have hblank : (onSide words side budget).draft.Sound := Draft.sound_blank side
  obtain ⟨hd, hshape, hwords⟩ := sound_runs hblank hdeep
  have hside : ∀ q, d.grid.Inside q ↔ q.row < side ∧ q.col < side := fun q =>
    Draft.grid_inside_of_shape hshape
  refine ⟨?_, ?_, hd.letters, ?_, ?_, hd.owners, history_exact hblank hdeep, history_leads inputs,
    hd.check_eq_ok⟩
  · -- no word was placed before the first run
    exact hwords.trans (List.nil_append _)
  · intro entry he
    obtain ⟨hlength, hstraight⟩ := PlacedWord.isStraight_iff.mp (hd.straight entry he)
    exact ⟨hlength, fun q hq => (hside q).mp (hd.inside entry he q hq), hstraight⟩
  · intro v hv w hw q a b
    exact hd.agree hv hw
  · intro q hr hc hnone
    rw [hd.get?_eq_blank_iff ((hside q).mpr ⟨hr, hc⟩), Draft.coverCount_eq_zero_iff]
    exact hnone

/-- Two runs, both solved, place two words twice. -/
theorem sound_after_two_runs :
    let p := onSide ["AB", "BC"] 4 ⟨10, none⟩
    let d := (p.runs [(.still, .ofSeed 1), (.still, .ofSeed 2)]).2.draft
    d.layout.entries.map (·.word) = ["AB", "BC", "AB", "BC"] ∧ d.layout.check d.grid = .ok () := by
  have haccepted : ofWordsOnSide ["AB", "BC"] 4 ⟨10, none⟩ =
      .ok (onSide ["AB", "BC"] 4 ⟨10, none⟩) := by cbv
  obtain ⟨hwords, -, -, -, -, -, -, -, hcheck⟩ :=
    sound_after_runs haccepted [(.still, .ofSeed 1), (.still, .ofSeed 2)] (by cbv)
  exact ⟨hwords.trans (by cbv), hcheck⟩

/-- **A failed run is invisible.** After any sequence of runs of an accepted placer, a run that does
not succeed leaves grid, owners and layout as they were, as long as at no time as many words are
placed as cannot be counted. If no run came before, the grid is blank then, no square has an owner,
and no word is placed. -/
theorem failed_run_changes_nothing {words : List String} {side : Nat} {budget : Budget}
    (h : ofWordsOnSide words side budget = .ok p) (inputs : List (Clock × Keystream))
    (clock : Clock) (stream : Keystream)
    (hfew : ((p.runs inputs).2.run clock stream).2.1.statistics.deepest < 2 ^ 32)
    (hfail : ((p.runs inputs).2.run clock stream).1 ≠ .solved) :
    let before := (p.runs inputs).2.draft
    let after := ((p.runs inputs).2.run clock stream).2.1.draft
    after.grid = before.grid ∧ after.owners = before.owners ∧ after.layout = before.layout ∧
    (inputs = [] →
      after.grid.isBlank = true ∧ after.isClear = true ∧ after.layout.isEmpty = true) := by
  intro before after
  have hdeep : ((p.runs inputs).2.run clock stream).2.1.statistics.deepest ≤ maxOwners :=
    Nat.le_sub_one_of_lt hfew
  obtain ⟨-, rfl⟩ := ofWordsOnSide_eq_ok_iff.mp h
  have hblank : (onSide words side budget).draft.Sound := Draft.sound_blank side
  obtain ⟨hbefore, -, -⟩ := sound_runs hblank (Nat.le_trans (deepest_le_run clock stream) hdeep)
  have hsame : after = before := draft_run_of_failed hbefore hdeep hfail
  rw [hsame]
  refine ⟨rfl, rfl, rfl, ?_⟩
  -- before the first run the draft is blank
  rintro rfl
  show (Draft.blank side).grid.isBlank = true ∧ (Draft.blank side).isClear = true ∧
    (Draft.blank side).layout.isEmpty = true
  refine ⟨?_, ?_, rfl⟩
  · rw [Grid.isBlank, Board.all_eq_true_iff]
    intro q s hs
    rw [Draft.blank, Draft.onGrid, Grid.blank, Board.get?_fill] at hs
    split at hs
    · obtain rfl := Option.some.inj hs
      rfl
    · cases hs
  · rw [Draft.isClear, Board.all_eq_true_iff]
    intro q n hn
    rw [Draft.blank, Draft.onGrid, Board.get?_fill] at hn
    split at hn
    · obtain rfl := Option.some.inj hn
      rfl
    · cases hn

/-- A run with words that have no letter in common is exhausted and leaves the grid blank. -/
theorem failed_run_of_disjoint_words :
    ((onSide ["AB", "CD"] 4 ⟨10, none⟩).run .still (.ofSeed 1)).2.1.draft.grid.isBlank = true := by
  have haccepted : ofWordsOnSide ["AB", "CD"] 4 ⟨10, none⟩ =
      .ok (onSide ["AB", "CD"] 4 ⟨10, none⟩) := by cbv
  have hexhausted : ((onSide ["AB", "CD"] 4 ⟨10, none⟩).run .still (.ofSeed 1)).1 = .exhausted := by
    cbv
  obtain ⟨-, -, -, hblank⟩ := failed_run_changes_nothing haccepted [] .still (.ofSeed 1) (by cbv)
    (fun hsolved => Outcome.noConfusion (hexhausted.symm.trans hsolved))
  exact (hblank rfl).1

end Placer

end Crossword
