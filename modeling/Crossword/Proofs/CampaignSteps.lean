import Crossword.Proofs.Attempts

/-!
# The steps of a campaign

What a call can do once its words are accepted, said once and for any number of words. `Attempt`
holds of a campaign before and after one attempt; `Ends` lists the ways in which a campaign comes to
its result, and `attempts_end` says that there is no other one. What holds of whole calls is derived
from it by induction on `Ends`: they draw the seeds that they report and no other (`Ends.draws`), a
puzzle is one that some attempt has found (`Ends.found`), and no word is refused any more
(`Ends.not_invalidInput`).
-/

namespace Crossword

namespace Keystream

theorem after_succ (k : Keystream) (n : Nat) : k.after (n + 1) = (k.after n).next64.2 := rfl

theorem after_after (k : Keystream) (m n : Nat) : (k.after m).after n = k.after (m + n) := by
  induction n with
  | zero => rfl
  | succ n ih =>
    rw [after_succ, ih]
    exact (after_succ k (m + n)).symm

/-- The first few numbers that are drawn. -/
def draws (k : Keystream) (n : Nat) : List UInt64 := (List.range n).map k.draw

/-- Some more numbers are drawn where the first ones have left the stream. -/
theorem draws_add (k : Keystream) (m n : Nat) :
    k.draws (m + n) = k.draws m ++ (k.after m).draws n := by
  have hlater : (k.after m).draw = k.draw ∘ (m + ·) := by
    funext i
    rw [Function.comp_apply, draw, draw, after_after]
  rw [draws, draws, draws, hlater, List.range_add, List.map_append, List.map_map]

end Keystream

namespace Campaign

variable (config : Config) (clocks : Clocks) (words : List String) (side : Nat)

/-- Holds of a puzzle that an attempt finds: the first run of a placer for the words is solved on
one of the clocks, its layout passes the check, and the puzzle is made of them. -/
def Found (puzzle : Puzzle) : Prop :=
  ∃ i stream placer left,
    (Placer.onSide words side config.budget).run (clocks i) stream = (.solved, placer, left) ∧
    placer.draft.layout.check placer.draft.grid = .ok () ∧
    puzzle = .ofSearch placer.draft.grid placer.draft.layout placer.statistics

/-- Holds of the campaigns before and after an attempt: a seed is drawn and reported, and the best
puzzle is the old one or one that the attempt has found. -/
structure Attempt (c d : Campaign) : Prop where
  seeds : d.seeds = c.seeds.after 1
  reports : d.reports.toList.map (·.seed) = c.reports.toList.map (·.seed) ++ c.seeds.draws 1
  best : ∀ puzzle, d.best = some puzzle →
    c.best = some puzzle ∨ Found config clocks words side puzzle

/-- The ways in which a campaign comes to its result: it goes by the best puzzle, or fails after one
more attempt for a reason other than bad input, or goes on after one more attempt. -/
inductive Ends : Campaign → Except Error Puzzle × Campaign → Prop
  | verdict (c : Campaign) : Ends c (c.verdict, c)
  | failed {c d : Campaign} {e : Error} (hattempt : Attempt config clocks words side c d)
      (herror : ∀ fault, e ≠ .invalidInput fault) : Ends c (.error e, d)
  | more {c d : Campaign} {result : Except Error Puzzle × Campaign}
      (hattempt : Attempt config clocks words side c d) (hrest : Ends d result) : Ends c result

section Steps

variable {config clocks words side} {c d : Campaign}

/-- The smaller of two puzzles is one of them. -/
theorem smaller_cases (best : Option Puzzle) (puzzle : Puzzle) :
    best = some (smaller best puzzle) ∨ smaller best puzzle = puzzle := by
  cases best with
  | none => exact Or.inr rfl
  | some current =>
    unfold smaller
    dsimp only
    split
    · exact Or.inr rfl
    · exact Or.inl rfl

/-- An attempt that finds nothing draws its seed and reports it. -/
theorem attempt_note {report : Report} (hseed : report.seed = c.seeds.next64.1) :
    Attempt config clocks words side c (c.drawSeed.2.note report) where
  seeds := rfl
  reports := by
    show (c.reports.push report).toList.map (·.seed) = _
    rw [Array.toList_push, List.map_append, List.map_singleton, hseed]
    rfl
  best := fun _ h => Or.inl h

/-- An attempt may find a puzzle that is kept. -/
theorem Attempt.keep {puzzle : Puzzle} (h : Attempt config clocks words side c d)
    (hfound : Found config clocks words side puzzle) :
    Attempt config clocks words side c (d.keep puzzle) where
  seeds := h.seeds
  reports := h.reports
  best := by
    intro kept hkept
    have hsmaller : smaller d.best puzzle = kept := Option.some.inj hkept
    rcases smaller_cases d.best puzzle with hold | hnew
    · exact h.best kept (hold.trans hkept)
    · rw [← hsmaller, hnew]
      exact Or.inr hfound

/-- A campaign comes to its result in one of these ways. -/
theorem attempts_end (count number : Nat) (c : Campaign) :
    Ends config clocks words side c (attempts config clocks words side count number c) := by
  induction count generalizing number c with
  | zero => exact .verdict c
  | succ count ih =>
    rw [attempts_more]
    dsimp only
    generalize hrun : (Placer.onSide words side config.budget).run (clocks number)
      (.ofSeed c.drawSeed.1) = run
    obtain ⟨outcome, placer, left⟩ := run
    have hnote : Attempt config clocks words side c (c.drawSeed.2.note
        ⟨number, config.maxAttempts, c.drawSeed.1, outcome, placer.statistics⟩) :=
      attempt_note rfl
    cases outcome with
    | abandoned => exact .more hnote (ih ..)
    | exhausted => exact .failed hnote fun _ h => Error.noConfusion h
    | solved =>
      dsimp only
      cases hcheck : placer.draft.layout.check placer.draft.grid with
      | error e =>
        obtain ⟨row, col, reason, rfl⟩ := Layout.exists_of_check_eq_error hcheck
        exact .failed hnote fun _ h => Error.noConfusion h
      | ok _ =>
        have hkeep := hnote.keep ⟨number, _, placer, left, hrun, hcheck, rfl⟩
        dsimp only
        split
        · exact .more hkeep (.verdict _)
        · exact .more hkeep (ih ..)

end Steps

namespace Ends

variable {config clocks words side} {c : Campaign} {result : Except Error Puzzle × Campaign}

/-- The seeds that a campaign draws are those that it reports, in order. -/
theorem draws (h : Ends config clocks words side c result) :
    ∃ n, result.2.seeds = c.seeds.after n ∧
      result.2.reports.toList.map (·.seed) =
        c.reports.toList.map (·.seed) ++ c.seeds.draws n := by
  induction h with
  | verdict c => exact ⟨0, rfl, (List.append_nil _).symm⟩
  | failed hattempt _ => exact ⟨1, hattempt.seeds, hattempt.reports⟩
  | @more c d result hattempt _ ih =>
    obtain ⟨n, hseeds, hreports⟩ := ih
    rw [hattempt.seeds, Keystream.after_after] at hseeds
    rw [hattempt.reports, hattempt.seeds, List.append_assoc, ← Keystream.draws_add] at hreports
    exact ⟨1 + n, hseeds, hreports⟩

/-- A puzzle that is returned is one that an attempt has found, with other counters. -/
theorem found (h : Ends config clocks words side c result)
    (hbest : ∀ puzzle, c.best = some puzzle → Found config clocks words side puzzle)
    {returned : Puzzle} (hreturned : result.1 = .ok returned) :
    ∃ puzzle statistics, Found config clocks words side puzzle ∧
      returned = puzzle.withStatistics statistics := by
  induction h with
  | verdict c =>
    unfold Campaign.verdict at hreturned
    cases hkept : c.best with
    | none =>
      rw [hkept] at hreturned
      cases hreturned
    | some puzzle =>
      rw [hkept] at hreturned
      exact ⟨puzzle, c.totals, hbest puzzle hkept, (Except.ok.inj hreturned).symm⟩
  | failed => cases hreturned
  | more hattempt _ ih =>
    exact ih (fun puzzle hkept => (hattempt.best puzzle hkept).elim (hbest puzzle) id) hreturned

/-- Words that are accepted are not called bad input later. -/
theorem not_invalidInput (h : Ends config clocks words side c result) (fault : InputFault) :
    result.1 ≠ .error (.invalidInput fault) := by
  induction h with
  | verdict c =>
    unfold Campaign.verdict
    intro h
    split at h
    · cases h
    · cases h
  | failed _ herror => exact fun h => herror fault (Except.error.inj h)
  | more _ _ ih => exact ih

end Ends

end Campaign

namespace Generator

variable {g : Generator} {words : List String}

/-- A call with accepted words is a campaign that comes to its result. -/
theorem exists_ends (clocks : Clocks)
    (haccepted : checkWords (g.prepared words) (g.side words) = .ok ()) :
    ∃ result c, g.generate clocks words = (result, c.reports, { g with seeds := c.seeds }) ∧
      Campaign.Ends g.config clocks (g.prepared words) (g.side words) { seeds := g.seeds }
        (result, c) := by
  rw [generate_eq, haccepted]
  exact ⟨_, _, rfl, Campaign.attempts_end ..⟩

/-- A puzzle that a call returns is one that an attempt has found for accepted words, with other
counters. -/
theorem found_of_generate {clocks : Clocks} {returned : Puzzle}
    (h : (g.generate clocks words).1 = .ok returned) :
    checkWords (g.prepared words) (g.side words) = .ok () ∧ ∃ puzzle statistics,
      Campaign.Found g.config clocks (g.prepared words) (g.side words) puzzle ∧
      returned = puzzle.withStatistics statistics := by
  cases haccepted : checkWords (g.prepared words) (g.side words) with
  | error e =>
    rw [generate_eq, haccepted] at h
    cases h
  | ok _ =>
    obtain ⟨result, c, hcall, hends⟩ := g.exists_ends clocks haccepted
    rw [hcall] at h
    -- nothing has been found before the first attempt
    refine ⟨rfl, hends.found (fun puzzle hnone => ?_) h⟩
    cases hnone

end Generator

end Crossword
