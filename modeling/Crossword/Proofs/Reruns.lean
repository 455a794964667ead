import Crossword.Proofs.Outcomes
import Crossword.Proofs.Truncation
import Mathlib

/-!
# Runs after failures

A placer whose runs have all failed is as new, apart from its counters (`Placer.AsNew`). The budget
is compared with the backtracks of all its runs, so what earlier runs have counted is missing from
the budget of a later one: it goes as the first run of a new placer with the rest of the budget.

Main result: `Placer.run_after_failures`.
-/

namespace Crossword

namespace Placer

/-! ## What failed runs leave -/

/-- Holds of a placer that differs from a new one in its counters at most, having never placed more
than all words. -/
structure AsNew (words : List String) (side : Nat) (budget : Budget) (q : Placer) : Prop where
  words_eq : q.words = orderWords words
  draft_eq : q.draft = .blank side
  budget_eq : q.budget = budget
  deepest_le : q.statistics.deepest ≤ words.length

section AsNew

variable {words : List String} {side : Nat} {budget : Budget} {q : Placer}

theorem asNew_onSide (words : List String) (side : Nat) (budget : Budget) :
    AsNew words side budget (onSide words side budget) where
  words_eq := rfl
  draft_eq := rfl
  budget_eq := rfl
  deepest_le := Nat.zero_le _

/-- A run that fails leaves the placer as new. -/
theorem AsNew.run (h : AsNew words side budget q) (hroom : words.length ≤ maxOwners) {clock : Clock}
    {stream : Keystream} (hfail : (q.run clock stream).1 ≠ .solved) :
    AsNew words side budget (q.run clock stream).2.1 := by
  have hsound : q.draft.Sound := h.draft_eq ▸ Draft.sound_blank side
  have hdeep : (q.run clock stream).2.1.statistics.deepest ≤ words.length := by
    have hreach : (q.run clock stream).2.1.statistics.deepest ≤
        (q.walk stream).reach q.words.length :=
      deepest_placeWords_le q.budget clock hsound.counted
    have hsize : q.draft.layout.size = 0 := h.draft_eq ▸ rfl
    have hlength : q.words.length = words.length := by
      rw [h.words_eq, (orderWords_perm words).length_eq]
    rw [Walk.reach, hlength, show (q.walk stream).draft.layout.size = 0 from hsize] at hreach
    exact Nat.le_trans hreach (Nat.max_le.mpr ⟨h.deepest_le, Nat.le_of_eq (Nat.zero_add _)⟩)
  exact ⟨h.words_eq, (draft_run_of_failed hsound (Nat.le_trans hdeep hroom) hfail).trans h.draft_eq,
    h.budget_eq, hdeep⟩

/-- So do any number of runs that fail. -/
theorem AsNew.runs (h : AsNew words side budget q) (hroom : words.length ≤ maxOwners)
    {inputs : List (Clock × Keystream)} (hfail : ∀ o ∈ (q.runs inputs).1, o ≠ .solved) :
    AsNew words side budget (q.runs inputs).2 := by
  induction inputs generalizing q with
  | nil => exact h
  | cons input rest ih =>
    obtain ⟨clock, stream⟩ := input
    rw [runs_cons, List.forall_mem_cons] at hfail
    rw [runs_cons]
    exact ih (h.run hroom hfail.1) hfail.2

end AsNew

/-! ## The run after them -/

section Rerun

variable {words : List String} {side limit : Nat} {q : Placer}

/-- The search of a placer that is as new is that of a new one with what is left of the budget, with
its counters ahead. -/
theorem AsNew.placeWords_eq (h : AsNew words side ⟨limit, none⟩ q) (clock clock' : Clock)
    (stream : Keystream) :
    let rest : Budget := ⟨limit - q.statistics.backtracks, none⟩
    let result := placeWords rest clock' true (orderWords words)
      ((onSide words side rest).walk stream)
    placeWords q.budget clock true q.words (q.walk stream) =
      (result.1, result.2.ahead q.statistics) := by
  intro rest result
  have hspent : ∀ s : Statistics, rest.spent clock' s = true ↔
      Budget.spent ⟨limit, none⟩ clock (q.statistics.absorb s) = true := by
    intro s
    rw [Budget.spent_untimed_iff rfl, Budget.spent_untimed_iff rfl]
    exact Nat.sub_le_iff_le_add'
  have hwalk : q.walk stream = ((onSide words side rest).walk stream).ahead q.statistics := by
    rw [walk, ← Statistics.absorb_attempt, h.draft_eq]
    rfl
  rw [h.budget_eq, h.words_eq, hwalk]
  exact placeWords_ahead hspent true (orderWords words) _

/-- **Runs after failures.** After any runs of an accepted placer without a limit on time, none of
which was solved, the next run goes as the first run of a new placer that has what those before it
have left of the budget: it ends in the same way, with the same draft and the stream at the same
place, and its counters are added to theirs. So unless the budget is used up by all runs together,
it goes as if the placer were new. -/
theorem run_after_failures {p : Placer} (h : ofWordsOnSide words side ⟨limit, none⟩ = .ok p)
    (hfew : words.length < 2 ^ 32) (inputs : List (Clock × Keystream))
    (hfail : ∀ o ∈ (p.runs inputs).1, o ≠ .solved) (clock clock' : Clock) (stream : Keystream) :
    let q := (p.runs inputs).2
    let r := q.run clock stream
    let rest := (onSide words side ⟨limit - q.statistics.backtracks, none⟩).run clock' stream
    let fresh := p.run clock' stream
    (r.1 = rest.1 ∧ r.2.1.draft = rest.2.1.draft ∧ r.2.2 = rest.2.2 ∧
      r.2.1.statistics.untimed = (q.statistics.absorb rest.2.1.statistics).untimed) ∧
    ((r.1 = fresh.1 ∧ r.2.1.draft = fresh.2.1.draft ∧ r.2.2 = fresh.2.2) ∨
      r.1 = .abandoned ∧ limit ≤ r.2.1.statistics.backtracks) := by
  intro q r rest fresh
  obtain ⟨-, rfl⟩ := ofWordsOnSide_eq_ok_iff.mp h
  have hq : AsNew words side ⟨limit, none⟩ q :=
    (asNew_onSide words side _).runs (Nat.le_sub_one_of_lt hfew) hfail
  have hsearch := hq.placeWords_eq clock clock' stream
  have houtcome : r.1 = rest.1 := congrArg (·.1) hsearch
  have hdraft : r.2.1.draft = rest.2.1.draft := congrArg (·.2.draft) hsearch
  have hstream : r.2.2 = rest.2.2 := congrArg (·.2.stream) hsearch
  have hcounters : r.2.1.statistics.untimed = (q.statistics.absorb rest.2.1.statistics).untimed :=
    congrArg (·.2.statistics.untimed) hsearch
  refine ⟨⟨houtcome, hdraft, hstream, hcounters⟩, ?_⟩
  -- what is left is spent wherever all of the budget is
  have hspent : ∀ s : Statistics, Budget.spent ⟨limit, none⟩ clock' s = true →
      Budget.spent ⟨limit - q.statistics.backtracks, none⟩ clock' s = true := by
    intro s hs
    rw [Budget.spent_untimed_iff rfl] at hs ⊢
    exact Nat.le_trans (Nat.sub_le ..) hs
  rcases (endsAlike_or_abandoned words side hspent stream).1 with halike | ⟨habandoned, -⟩
  · exact Or.inl ⟨houtcome.trans halike.outcome, hdraft.trans halike.draft,
      hstream.trans halike.stream⟩
  · have hend : r.1 = .abandoned := houtcome.trans habandoned
    have hlimit : q.budget.timeLimit = none := hq.budget_eq ▸ rfl
    have hmax : q.budget.maxBacktracks ≤ r.2.1.statistics.backtracks :=
      maxBacktracks_le_of_abandoned hlimit hend
    rw [hq.budget_eq] at hmax
    exact Or.inr ⟨hend, hmax⟩

end Rerun

/-- Three runs with ten backtracks in all, on words that take two of them each time. -/
theorem third_run_of_disjoint_words :
    let p := onSide ["AB", "CD"] 4 ⟨10, none⟩
    let q := (p.runs [(.still, .ofSeed 1), (.still, .ofSeed 2)]).2
    let rest := onSide ["AB", "CD"] 4 ⟨6, none⟩
    (q.run .still (.ofSeed 3)).1 = (rest.run .still (.ofSeed 3)).1 := by
  have haccepted : ofWordsOnSide ["AB", "CD"] 4 ⟨10, none⟩ =
      .ok (onSide ["AB", "CD"] 4 ⟨10, none⟩) := ofWordsOnSide_eq_ok_iff.mpr ⟨by cbv, rfl⟩
  have hfail : ((onSide ["AB", "CD"] 4 ⟨10, none⟩).runs
      [(.still, .ofSeed 1), (.still, .ofSeed 2)]).1 = [.exhausted, .exhausted] := by cbv
  have hspent : ((onSide ["AB", "CD"] 4 ⟨10, none⟩).runs
      [(.still, .ofSeed 1), (.still, .ofSeed 2)]).2.statistics.backtracks = 4 := by cbv
  obtain ⟨⟨houtcome, -⟩, -⟩ := run_after_failures haccepted (by decide)
    [(.still, .ofSeed 1), (.still, .ofSeed 2)] (by rw [hfail]; decide) .still .still (.ofSeed 3)
  rw [hspent] at houtcome
  exact houtcome

/-- A budget of two backtracks is enough for a first run, which is exhausted, but not for two: from
the same stream as a first run, a second run of the same placer is abandoned. -/
theorem second_run_of_disjoint_words :
    let p := onSide ["AB", "CD"] 4 ⟨2, none⟩
    let stream := (p.run .still (.ofSeed 1)).2.2
    ofWordsOnSide ["AB", "CD"] 4 ⟨2, none⟩ = .ok p ∧
      (p.runs [(.still, .ofSeed 1)]).1 = [.exhausted] ∧
      (p.run .still stream).1 = .exhausted ∧
      ((p.runs [(.still, .ofSeed 1)]).2.run .still stream).1 = .abandoned :=
  ⟨ofWordsOnSide_eq_ok_iff.mpr ⟨by cbv, rfl⟩, by cbv, by cbv, by cbv⟩

end Placer

end Crossword
