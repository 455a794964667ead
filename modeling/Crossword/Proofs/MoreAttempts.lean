import Crossword.Proofs.Results
import Crossword.Proofs.Truncation
import Mathlib

/-!
# Asking for more

A generator that is allowed more attempts, and that compares more layouts, makes the same attempts
as before, and perhaps some after them. Since an attempt that exhausts the search and one that finds
a layout exclude each other, whatever their seeds and budgets (`Placer.not_exhausted_of_solved`),
the attempts that are new can neither take a puzzle away nor bring one where there was none.

Main result: `more_never_hurts`.
-/

namespace Crossword

/-! ## Searches without a limit on time -/

/-- Without a limit on time the clock does not matter. -/
theorem placeWords_untimed {budget : Budget} (htime : budget.timeLimit = none)
    (clock clock' : Clock) (first : Bool) (words : List String) (w : Walk) :
    placeWords budget clock first words w = placeWords budget clock' first words w := by
  have hspent : ∀ s : Statistics, budget.spent clock' s = true ↔
      budget.spent clock (({} : Statistics).absorb s) = true := fun s => by
    rw [Budget.spent_untimed_iff htime, Budget.spent_untimed_iff htime, Statistics.empty_absorb]
  simpa only [Walk.ahead_empty] using placeWords_ahead hspent first words w

/-- Without a limit on time the clock decides neither how a run ends nor what it leaves. -/
theorem Placer.run_untimed (p : Placer) (htime : p.budget.timeLimit = none) (clock clock' : Clock)
    (stream : Keystream) :
    (p.run clock' stream).1 = (p.run clock stream).1 ∧
      (p.run clock' stream).2.1.draft = (p.run clock stream).2.1.draft ∧
      (p.run clock' stream).2.1.statistics.deepest =
        (p.run clock stream).2.1.statistics.deepest := by
  rw [run_eq, run_eq]
  dsimp only
  rw [placeWords_untimed htime clock' clock]
  exact ⟨rfl, rfl, rfl⟩

/-- A list of words on which one first run is solved is not exhausted by any other one. -/
theorem Placer.not_exhausted_of_solved {words : List String} {side : Nat} {budget budget' : Budget}
    {clock clock' : Clock} {stream stream' : Keystream} (hwords : checkWords words side = .ok ())
    (hfew : words.length ≤ maxOwners)
    (hsolved : ((onSide words side budget).run clock stream).1 = .solved) :
    ((onSide words side budget').run clock' stream').1 ≠ .exhausted := by
  intro hexhausted
  obtain ⟨placed, hplaced, -⟩ := exists_layout_of_solved hwords hfew hsolved
  exact not_nonempty_layouts_of_exhausted hwords hexhausted ⟨placed, hplaced⟩

namespace Generator

/-! ## Attempts of one call -/

section Call

variable {g : Generator} {clocks : Clocks} {words : List String}

/-- If one attempt with accepted words finds a layout, none exhausts the search. -/
theorem outcome_ne_exhausted (hwords : checkWords (g.prepared words) (g.side words) = .ok ())
    (hfew : words.length ≤ maxOwners) {i : Nat} (hsolved : g.outcome clocks words i = .solved)
    (j : Nat) : g.outcome clocks words j ≠ .exhausted :=
  Placer.not_exhausted_of_solved hwords (length_prepared g words ▸ hfew) hsolved

/-- In one call, no attempt exhausts the search if another one finds a layout, and then the call
returns a puzzle. -/
theorem solved_layout_is_kept (hvalid : g.config.check = .ok ()) (hfew : words.length ≤ maxOwners)
    (clocks : Clocks) :
    let reports := (g.generate clocks words).2.1.toList
    (reports.Pairwise fun r s => r.outcome = .solved → s.outcome ≠ .exhausted) ∧
    ((∃ r ∈ reports, r.outcome = .solved) →
      ∃ puzzle, (g.generate clocks words).1 = .ok puzzle) := by
  intro reports
  by_cases hrefuses : g.Refuses words
  · obtain ⟨fault, hcall⟩ := generate_of_refuses clocks hrefuses
    have hreports : reports = [] := congrArg (·.2.1.toList) hcall
    rw [hreports]
    exact ⟨.nil, fun h => nomatch h⟩
  · have hwords := not_refuses_iff.mp hrefuses
    rw [show reports = _ from reports_of_accepted clocks hvalid hwords hfew,
      generate_of_accepted clocks hvalid hwords hfew]
    refine ⟨List.pairwise_map.mpr (List.pairwise_of_forall fun i j hi => ?_), fun h => ?_⟩
    · exact outcome_ne_exhausted hwords hfew hi j
    · obtain ⟨r, hr, hsolved⟩ := h
      obtain ⟨i, hi, rfl⟩ := List.mem_map.mp hr
      obtain ⟨h1, him⟩ := mem_attempts.mp hi
      exact exists_result_eq_ok_iff.mpr
        ⟨outcome_ne_exhausted hwords hfew hsolved _, i, h1, him, hsolved⟩

end Call

/-! ## The same attempts -/

/-- Two generators attempt the same if each attempt of the one ends as that of the other does, with
the same draft, after it has come as far. -/
structure AttemptsAlike (g h : Generator) (clocks clocks' : Clocks) (words : List String) :
    Prop where
  outcome : ∀ i, h.outcome clocks' words i = g.outcome clocks words i
  draft : ∀ i, (h.placer clocks' words i).draft = (g.placer clocks words i).draft
  deepest : ∀ i, (h.placer clocks' words i).statistics.deepest =
    (g.placer clocks words i).statistics.deepest

/-- How many attempts are allowed and how many layouts are compared plays no part in an attempt; nor
does the clocks, without a limit on time. -/
theorem attemptsAlike {c : Config} (htime : c.timeBudget = none) (attempts kept : Nat)
    (seeds : Keystream) (clocks clocks' : Clocks) (words : List String) :
    AttemptsAlike ⟨c, seeds⟩ ⟨{ c with maxAttempts := attempts, bestOf := kept }, seeds⟩
      clocks clocks' words := by
  let p : Placer := .onSide (prepareWords c.casePolicy words)
    (c.sideFor (prepareWords c.casePolicy words)) c.budget
  have hrun : ∀ i, _ := fun i =>
    p.run_untimed htime (clocks i) (clocks' i) (.ofSeed (seeds.draw (i - 1)))
  exact ⟨fun i => (hrun i).1, fun i => (hrun i).2.1, fun i => (hrun i).2.2⟩

namespace AttemptsAlike

variable {g h : Generator} {clocks clocks' : Clocks} {words : List String}
  (halike : AttemptsAlike g h clocks clocks' words)

include halike

theorem solvedCount_eq (k : Nat) :
    h.solvedCount clocks' words k = g.solvedCount clocks words k := by
  unfold solvedCount
  rw [show h.outcome clocks' words = g.outcome clocks words from funext halike.outcome]

theorem grid_eq (i : Nat) : (h.puzzle clocks' words i).grid = (g.puzzle clocks words i).grid := by
  show (h.placer clocks' words i).draft.grid.trim.1 = _
  rw [halike.draft]
  rfl

/-- The attempts have come as far altogether. -/
theorem deepest_totals_eq (k : Nat) :
    (h.totals clocks' words k).deepest = (g.totals clocks words k).deepest := by
  refine eq_of_forall_ge_iff fun n => ?_
  unfold totals
  rw [Statistics.deepest_total_le_iff, Statistics.deepest_total_le_iff, List.forall_mem_map,
    List.forall_mem_map]
  refine forall₂_congr fun i _ => ?_
  rw [halike.deepest]

variable (hbest : g.config.bestOf ≤ h.config.bestOf)

include hbest

/-- What settles the matter where more is asked for settles it where less is. -/
theorem settled_of_settled {i : Nat} (hsettled : h.Settled clocks' words i) :
    g.Settled clocks words i := by
  rcases hsettled with hexhausted | hkept
  · exact Or.inl (halike.outcome i ▸ hexhausted)
  · exact Or.inr (Nat.le_trans hbest (halike.solvedCount_eq i ▸ hkept))

variable (hvalid : g.config.check = .ok ())
  (hattempts : g.config.maxAttempts ≤ h.config.maxAttempts)

include hvalid hattempts

/-- Where more is asked for, no fewer attempts are made. -/
theorem lastAttempt_le_lastAttempt :
    g.lastAttempt clocks words ≤ h.lastAttempt clocks' words := by
  have hmax := (Config.one_le_of_check hvalid).1
  obtain ⟨⟨-, hle⟩, -⟩ := lastAttempt_spec clocks words hmax
  obtain ⟨⟨hone, -⟩, -, hend⟩ := lastAttempt_spec clocks' words (Nat.le_trans hmax hattempts)
  rcases hend with hsettled | hlast
  · exact lastAttempt_le hmax hone (halike.settled_of_settled hbest hsettled)
  · omega

/-- Where more is asked for, there is a puzzle if there is one where less is, and it is no
larger. -/
theorem exists_result_of_result_eq_ok
    (hwords : checkWords (h.prepared words) (h.side words) = .ok ())
    (hfew : words.length ≤ maxOwners) {puzzle : Puzzle}
    (hpuzzle : g.result clocks words (g.lastAttempt clocks words) = .ok puzzle) :
    ∃ better, h.result clocks' words (h.lastAttempt clocks' words) = .ok better ∧
      better.grid.rows * better.grid.cols ≤ puzzle.grid.rows * puzzle.grid.cols := by
  obtain ⟨i, hi, rfl⟩ := isBest_of_result_eq_ok hpuzzle
  have hsolved : h.outcome clocks' words i = .solved := (halike.outcome i).trans hi.solved
  have him : i ≤ h.lastAttempt clocks' words :=
    Nat.le_trans hi.made.2 (halike.lastAttempt_le_lastAttempt hbest hvalid hattempts)
  obtain ⟨better, hbetter⟩ := exists_result_eq_ok_iff.mpr
    ⟨outcome_ne_exhausted hwords hfew hsolved _, i, hi.made.1, him, hsolved⟩
  refine ⟨better, hbetter, ?_⟩
  obtain ⟨j, hj, rfl⟩ := isBest_of_result_eq_ok hbetter
  have hleast := hj.least i hi.made.1 him hsolved
  rw [halike.grid_eq i] at hleast
  exact hleast

/-- Where more is asked for, a list is found to be infeasible after as many attempts. -/
theorem result_eq_infeasible (hvalid' : h.config.check = .ok ()) {tries placed total : Nat}
    (hinfeasible : g.result clocks words (g.lastAttempt clocks words) =
      .error (.infeasible tries placed total)) :
    h.result clocks' words (h.lastAttempt clocks' words) =
      .error (.infeasible tries placed total) := by
  obtain ⟨hexhausted, rfl, rfl, rfl⟩ := result_eq_infeasible_iff.mp hinfeasible
  have hended : h.outcome clocks' words (g.lastAttempt clocks words) = .exhausted :=
    (halike.outcome _).trans hexhausted
  have hone := (lastAttempt_spec clocks words (Config.one_le_of_check hvalid).1).1.1
  -- the attempt that ends the one call ends the other
  have hlast : h.lastAttempt clocks' words = g.lastAttempt clocks words :=
    Nat.le_antisymm (lastAttempt_le (Config.one_le_of_check hvalid').1 hone (Or.inl hended))
      (halike.lastAttempt_le_lastAttempt hbest hvalid hattempts)
  rw [hlast]
  exact result_eq_infeasible_iff.mpr ⟨hended, rfl, (halike.deepest_totals_eq _).symm, rfl⟩

end AttemptsAlike

end Generator

open Generator in
/-- **Asking for more never hurts.** Let one call be allowed more attempts than another, and compare
more layouts, time being limited in neither. Where the other call returns a puzzle, this one returns
a puzzle that is no larger; and where the other call finds the list infeasible, so does this one,
after as many attempts. For in no call does an attempt exhaust the search after another has found a
layout, and what is found is never lost. -/
theorem more_never_hurts {c : Config} {attempts kept : Nat} {words : List String}
    (hvalid : c.check = .ok ()) (htime : c.timeBudget = none) (hattempts : c.maxAttempts ≤ attempts)
    (hkept : c.bestOf ≤ kept) (hfew : words.length < 2 ^ 32) (clocks clocks' : Clocks) :
    let more := { c with maxAttempts := attempts, bestOf := kept }
    (∀ puzzle, generate c clocks words = .ok puzzle →
      ∃ better, generate more clocks' words = .ok better ∧
        better.grid.rows * better.grid.cols ≤ puzzle.grid.rows * puzzle.grid.cols) ∧
    (∀ tries placed total, generate c clocks words = .error (.infeasible tries placed total) →
      generate more clocks' words = .error (.infeasible tries placed total)) ∧
    (∀ (g : Generator) (clocks : Clocks), g.config.check = .ok () →
      let reports := (g.generate clocks words).2.1.toList
      (reports.Pairwise fun r s => r.outcome = .solved → s.outcome ≠ .exhausted) ∧
      ((∃ r ∈ reports, r.outcome = .solved) →
        ∃ puzzle, (g.generate clocks words).1 = .ok puzzle)) := by
  intro more
  have hroom : words.length ≤ maxOwners := Nat.le_sub_one_of_lt hfew
  have hmore : more.check = .ok () := by
    obtain ⟨hmax, hbacktracks, htime', hbest⟩ := Config.check_eq_ok_iff.mp hvalid
    have hmax' : attempts ≠ 0 := by omega
    have hbest' : kept ≠ 0 := by omega
    exact Config.check_eq_ok_iff.mpr ⟨hmax', hbacktracks, htime', hbest'⟩
  have halike : AttemptsAlike ⟨c, .ofSeed c.seed⟩ ⟨more, .ofSeed c.seed⟩ clocks clocks' words :=
    attemptsAlike htime attempts kept (.ofSeed c.seed) clocks clocks' words
  let h : Generator := ⟨more, .ofSeed c.seed⟩
  rw [generate_of_check hvalid, generate_of_check hmore]
  refine ⟨fun puzzle hpuzzle => ?_, fun tries placed total hinfeasible => ?_,
    fun g clocks hg => solved_layout_is_kept hg hroom clocks⟩
  · obtain ⟨hwords, hresult⟩ := result_of_generate hvalid hroom hpuzzle nofun
    have hwords' : checkWords (h.prepared words) (h.side words) = .ok () := hwords
    rw [generate_of_accepted clocks' hmore hwords' hroom]
    exact halike.exists_result_of_result_eq_ok hkept hvalid hattempts hwords hroom hresult
  · obtain ⟨hwords, hresult⟩ := result_of_generate hvalid hroom hinfeasible nofun
    have hwords' : checkWords (h.prepared words) (h.side words) = .ok () := hwords
    rw [generate_of_accepted clocks' hmore hwords' hroom]
    exact halike.result_eq_infeasible hkept hvalid hattempts hmore hresult

/-- With two more attempts, two words that cross have a puzzle that is no larger, and two words
without a common letter are still infeasible. -/
theorem more_attempts_on_two_words :
    (∃ puzzle better, generate { maxAttempts := 1 } .still ["ABC", "CDA"] = .ok puzzle ∧
      generate { maxAttempts := 3, bestOf := 3 } .still ["ABC", "CDA"] = .ok better ∧
      better.grid.rows * better.grid.cols ≤ puzzle.grid.rows * puzzle.grid.cols) ∧
    generate { maxAttempts := 3, bestOf := 3 } .still ["AB", "CD"] =
      .error (.infeasible 1 1 2) := by
  have hvalid : ({ maxAttempts := 1 } : Config).check = .ok () := rfl
  have hcross : ["ABC", "CDA"].length < 2 ^ 32 := by decide
  have hdisjoint : ["AB", "CD"].length < 2 ^ 32 := by decide
  have hmore : 1 ≤ 3 := by decide
  refine ⟨?_, ?_⟩
  · have hok : (generate { maxAttempts := 1 } .still ["ABC", "CDA"]).isOk = true := by cbv
    cases hpuzzle : generate { maxAttempts := 1 } .still ["ABC", "CDA"] with
    | error e =>
      rw [hpuzzle] at hok
      cases hok
    | ok puzzle =>
      obtain ⟨better, hbetter, harea⟩ :=
        (more_never_hurts hvalid rfl hmore hmore hcross .still .still).1 puzzle hpuzzle
      exact ⟨puzzle, better, rfl, hbetter, harea⟩
  · have hfirst : generate { maxAttempts := 1 } .still ["AB", "CD"] =
        .error (.infeasible 1 1 2) := by cbv
    exact (more_never_hurts hvalid rfl hmore hmore hdisjoint .still .still).2.1 1 1 2 hfirst

end Crossword
