import Crossword.Proofs.Attempts
import Crossword.Proofs.Infeasible

/-!
# What a call returns

How the attempts of a call decide what it returns. There are three ways for a call with accepted
words to end (`Generator.result_cases`): the last attempt has exhausted the search, some attempt has
found a layout, or none has and no attempt is left.

Main result: `Generator.generates_as_specified`, the whole of what a call returns and reports.
-/

namespace Crossword

namespace Generator

/-- Holds of words that are refused: in the letter case that is asked for there are none, or one of
them is empty, occurs twice, or is longer than the side. -/
def Refuses (g : Generator) (words : List String) : Prop :=
  g.prepared words = [] ∨ "" ∈ g.prepared words ∨ ¬ (g.prepared words).Nodup ∨
    ∃ word ∈ g.prepared words, g.side words < word.length

/-- The number of placements taken back in the first attempts. -/
def backtracks (g : Generator) (clocks : Clocks) (words : List String) (k : Nat) : Nat :=
  ((List.range' 1 k).map fun i => (g.placer clocks words i).statistics.backtracks).sum

variable {g : Generator} {clocks : Clocks} {words : List String}

/-- Words that are not refused are accepted. -/
theorem not_refuses_iff :
    ¬ g.Refuses words ↔ checkWords (g.prepared words) (g.side words) = .ok () := by
  unfold Refuses
  rw [checkWords_eq_ok_iff, not_or, not_or, not_or, not_not]
  refine ⟨fun h => ?_, fun h => ?_⟩
  · obtain ⟨hne, hempty, hnodup, hlong⟩ := h
    refine ⟨hne, fun word hword => ⟨fun heq => ?_, ?_⟩, hnodup⟩
    · exact hempty (heq ▸ hword)
    · exact Nat.le_of_not_lt fun hlt => hlong ⟨word, hword, hlt⟩
  · obtain ⟨hne, hall, hnodup⟩ := h
    refine ⟨hne, fun hempty => (hall "" hempty).1 rfl, hnodup, fun hlong => ?_⟩
    obtain ⟨word, hword, hlt⟩ := hlong
    exact Nat.not_le_of_lt hlt (hall word hword).2

/-- Refused words are reported as bad input, before any attempt is made or any seed is drawn. -/
theorem generate_of_refuses (clocks : Clocks) (h : g.Refuses words) :
    ∃ fault, g.generate clocks words = (.error (.invalidInput fault), #[], g) := by
  cases hcheck : checkWords (g.prepared words) (g.side words) with
  | ok _ => exact absurd h (not_refuses_iff.mpr hcheck)
  | error e =>
    obtain ⟨fault, rfl⟩ := exists_of_checkWords_eq_error hcheck
    refine ⟨fault, ?_⟩
    rw [generate_eq, hcheck]

/-- What is reported of accepted words: the attempts up to the last one, in order. -/
theorem reports_of_accepted (clocks : Clocks) (hvalid : g.config.check = .ok ())
    (haccepted : checkWords (g.prepared words) (g.side words) = .ok ())
    (hfew : words.length ≤ maxOwners) : (g.generate clocks words).2.1.toList =
      (List.range' 1 (g.lastAttempt clocks words)).map (g.report clocks words) := by
  rw [generate_of_accepted clocks hvalid haccepted hfew]
  exact reports_campaign ..

/-- The totals count what each attempt has taken back. -/
theorem backtracks_totals (k : Nat) :
    (g.totals clocks words k).backtracks = g.backtracks clocks words k := by
  unfold totals backtracks
  rw [Statistics.backtracks_total, List.map_map]
  rfl

/-- There are three ways for the attempts to end. -/
theorem result_cases (g : Generator) (clocks : Clocks) (words : List String) (m : Nat) :
    (g.outcome clocks words m = .exhausted ∧
      g.result clocks words m =
        .error (.infeasible m (g.totals clocks words m).deepest words.length)) ∨
    (g.outcome clocks words m ≠ .exhausted ∧
      ∃ i, g.IsBest clocks words m i ∧
        g.result clocks words m =
          .ok ((g.puzzle clocks words i).withStatistics (g.totals clocks words m))) ∨
    (g.outcome clocks words m ≠ .exhausted ∧
      (∀ i, 1 ≤ i → i ≤ m → g.outcome clocks words i ≠ .solved) ∧
        g.result clocks words m = .error (.searchAbandoned m (g.backtracks clocks words m))) := by
  by_cases hexhausted : g.outcome clocks words m = .exhausted
  · refine Or.inl ⟨hexhausted, ?_⟩
    rw [result, if_pos hexhausted, length_prepared]
  refine Or.inr ?_
  rw [result, if_neg hexhausted, Campaign.verdict, totals_campaign, attempts_totals,
    backtracks_totals]
  have hbest := best_campaign g clocks words m
  cases hpuzzle : (g.campaign clocks words m).best with
  | none =>
    rw [hpuzzle] at hbest
    exact Or.inr ⟨hexhausted, hbest, rfl⟩
  | some p =>
    rw [hpuzzle] at hbest
    obtain ⟨i, hi, rfl⟩ := hbest
    exact Or.inl ⟨hexhausted, i, hi, rfl⟩

section Result

variable {m : Nat}

/-- The result is an infeasible list if the last attempt has exhausted the search. -/
theorem result_eq_infeasible_iff {tries deepest total : Nat} :
    g.result clocks words m = .error (.infeasible tries deepest total) ↔
      g.outcome clocks words m = .exhausted ∧ tries = m ∧
        deepest = (g.totals clocks words m).deepest ∧ total = words.length := by
  rcases result_cases g clocks words m with ⟨hend, heq⟩ | ⟨hend, i, hi, heq⟩ | ⟨hend, -, heq⟩
  · rw [heq]
    refine ⟨fun h => ?_, fun h => ?_⟩
    · cases h
      exact ⟨hend, rfl, rfl, rfl⟩
    · obtain ⟨-, rfl, rfl, rfl⟩ := h
      rfl
  · rw [heq]
    exact iff_of_false nofun fun h => hend h.1
  · rw [heq]
    exact iff_of_false nofun fun h => hend h.1

/-- A puzzle that is returned is the best one, with the counters of all attempts. -/
theorem isBest_of_result_eq_ok {puzzle : Puzzle} (h : g.result clocks words m = .ok puzzle) :
    ∃ i, g.IsBest clocks words m i ∧
      puzzle = (g.puzzle clocks words i).withStatistics (g.totals clocks words m) := by
  rcases result_cases g clocks words m with ⟨-, heq⟩ | ⟨-, i, hi, heq⟩ | ⟨-, -, heq⟩
  · cases heq.symm.trans h
  · exact ⟨i, hi, Except.ok.inj (h.symm.trans heq)⟩
  · cases heq.symm.trans h

/-- The result is a puzzle if some attempt has found a layout and the last one has not exhausted the
search. -/
theorem exists_result_eq_ok_iff : (∃ puzzle, g.result clocks words m = .ok puzzle) ↔
    g.outcome clocks words m ≠ .exhausted ∧
      ∃ i, 1 ≤ i ∧ i ≤ m ∧ g.outcome clocks words i = .solved := by
  rcases result_cases g clocks words m with ⟨hend, heq⟩ | ⟨hend, i, hi, heq⟩ | ⟨-, hnone, heq⟩
  · rw [heq]
    exact iff_of_false (fun h => nomatch h) fun h => h.1 hend
  · exact iff_of_true ⟨_, heq⟩ ⟨hend, i, hi.made.1, hi.made.2, hi.solved⟩
  · rw [heq]
    refine iff_of_false (fun h => nomatch h) fun h => ?_
    obtain ⟨-, i, h1, him, hsolved⟩ := h
    exact hnone i h1 him hsolved

end Result

/-- Unless it is bad input, what a call returns is what its attempts come to. -/
theorem result_of_generate {returned : Except Error Puzzle} (hvalid : g.config.check = .ok ())
    (hfew : words.length ≤ maxOwners) (h : (g.generate clocks words).1 = returned)
    (haccepted : ∀ fault, returned ≠ .error (.invalidInput fault)) :
    checkWords (g.prepared words) (g.side words) = .ok () ∧
      g.result clocks words (g.lastAttempt clocks words) = returned := by
  have hcheck : checkWords (g.prepared words) (g.side words) = .ok () := by
    refine not_refuses_iff.mp fun hrefuses => ?_
    obtain ⟨fault, hcall⟩ := generate_of_refuses clocks hrefuses
    rw [hcall] at h
    exact haccepted fault h.symm
  rw [generate_of_accepted clocks hvalid hcheck hfew] at h
  exact ⟨hcheck, h⟩

/-- A call on its own is the first call of a generator. -/
theorem generate_of_check {c : Config} (hvalid : c.check = .ok ()) (clocks : Clocks)
    (words : List String) :
    Crossword.generate c clocks words =
      ((⟨c, .ofSeed c.seed⟩ : Generator).generate clocks words).1 := by
  unfold Crossword.generate Crossword.generateM ofConfig
  rw [hvalid]
  rfl

end Generator

end Crossword
