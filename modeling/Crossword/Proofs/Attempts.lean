import Crossword.Generator
import Crossword.Proofs.Outcomes
import Crossword.Proofs.Totals

/-!
# The attempts of a generator

What a generator does in one call, said attempt by attempt and without its loop. Attempts are
numbered from one. Each of them is a first run with a clock and a seed of its own
(`Generator.trial`), so they can all be told in advance, those that are never made as well.
`Generator.lastAttempt` is the first one that settles the matter, or the last one that is allowed.

Main result: `Generator.generate_of_accepted`. A call with accepted words makes the attempts up to
that one and no other, and it draws their seeds and no other.
-/

namespace Crossword

namespace Keystream

/-- The stream after a number of word pairs have been drawn. -/
def after (k : Keystream) : Nat → Keystream
  | 0 => k
  | n + 1 => (k.after n).next64.2

/-- The number that is drawn after a number of others. -/
def draw (k : Keystream) (n : Nat) : UInt64 := (k.after n).next64.1

end Keystream

/-! ## Acceptable parameters -/

/-- Parameters are acceptable if none of the numbers is zero. -/
theorem Config.check_eq_ok_iff {c : Config} : c.check = .ok () ↔
    c.maxAttempts ≠ 0 ∧ c.backtrackBudget ≠ 0 ∧ c.timeBudget ≠ some 0 ∧ c.bestOf ≠ 0 := by
  unfold Config.check
  by_cases hattempts : c.maxAttempts = 0
  · rw [if_pos hattempts]
    exact iff_of_false error_ne_ok fun h => h.1 hattempts
  by_cases hbacktracks : c.backtrackBudget = 0
  · rw [if_neg hattempts, if_pos hbacktracks]
    exact iff_of_false error_ne_ok fun h => h.2.1 hbacktracks
  by_cases htime : c.timeBudget = some 0
  · rw [if_neg hattempts, if_neg hbacktracks, if_pos htime]
    exact iff_of_false error_ne_ok fun h => h.2.2.1 htime
  by_cases hbest : c.bestOf = 0
  · rw [if_neg hattempts, if_neg hbacktracks, if_neg htime, if_pos hbest]
    exact iff_of_false error_ne_ok fun h => h.2.2.2 hbest
  · rw [if_neg hattempts, if_neg hbacktracks, if_neg htime, if_neg hbest]
    exact iff_of_true rfl ⟨hattempts, hbacktracks, htime, hbest⟩

/-- Acceptable parameters allow an attempt and keep a layout. -/
theorem Config.one_le_of_check {c : Config} (h : c.check = .ok ()) :
    1 ≤ c.maxAttempts ∧ 1 ≤ c.bestOf := by
  obtain ⟨hattempts, -, -, hbest⟩ := Config.check_eq_ok_iff.mp h
  exact ⟨Nat.pos_of_ne_zero hattempts, Nat.pos_of_ne_zero hbest⟩

namespace Generator

/-! ## The attempts that can be made -/

section Trials

variable (g : Generator) (clocks : Clocks) (words : List String)

/-- The words of a call in the letter case that is asked for. -/
def prepared : List String := prepareWords g.config.casePolicy words

/-- The side of the grid for the words of a call. -/
def side : Nat := g.config.sideFor (g.prepared words)

/-- The seed of an attempt. -/
def seed (i : Nat) : UInt64 := g.seeds.draw (i - 1)

/-- An attempt: the first run of a placer for the words, with a clock of its own and on the stream
of a seed of its own. -/
def trial (i : Nat) : Outcome × Placer × Keystream :=
  (Placer.onSide (g.prepared words) (g.side words) g.config.budget).run (clocks i)
    (.ofSeed (g.seed i))

/-- How an attempt ends. -/
def outcome (i : Nat) : Outcome := (g.trial clocks words i).1

/-- What an attempt leaves. -/
def placer (i : Nat) : Placer := (g.trial clocks words i).2.1

/-- The report of an attempt. -/
def report (i : Nat) : Report :=
  ⟨i, g.config.maxAttempts, g.seed i, g.outcome clocks words i,
    (g.placer clocks words i).statistics⟩

/-- The puzzle that an attempt makes. -/
def puzzle (i : Nat) : Puzzle :=
  .ofSearch (g.placer clocks words i).draft.grid (g.placer clocks words i).draft.layout
    (g.placer clocks words i).statistics

/-- The counters of the first attempts, added up. -/
def totals (k : Nat) : Statistics :=
  .total ((List.range' 1 k).map fun i => (g.placer clocks words i).statistics)

/-- The number of layouts found in the first attempts. -/
def solvedCount (k : Nat) : Nat :=
  ((List.range' 1 k).map (g.outcome clocks words)).count .solved

/-- Holds of an attempt after which no other one is made: it has exhausted the search, or as many
layouts are found as are compared. -/
def Settled (i : Nat) : Prop :=
  g.outcome clocks words i = .exhausted ∨ g.config.bestOf ≤ g.solvedCount clocks words i

instance : DecidablePred (g.Settled clocks words) := fun _ => inferInstanceAs (Decidable (_ ∨ _))

/-- The last attempt that is made: the first one that settles the matter, else the last one that is
allowed. -/
def lastAttempt : Nat :=
  ((List.range' 1 g.config.maxAttempts).find? fun i => g.Settled clocks words i).getD
    g.config.maxAttempts

/-- Holds of the attempt whose puzzle is the best of the first attempts: of those that found a
layout, the earliest whose grid has the fewest squares. -/
structure IsBest (k i : Nat) : Prop where
  made : 1 ≤ i ∧ i ≤ k
  solved : g.outcome clocks words i = .solved
  least : ∀ j, 1 ≤ j → j ≤ k → g.outcome clocks words j = .solved →
    (g.puzzle clocks words i).grid.rows * (g.puzzle clocks words i).grid.cols ≤
      (g.puzzle clocks words j).grid.rows * (g.puzzle clocks words j).grid.cols
  earliest : ∀ j, 1 ≤ j → j < i → g.outcome clocks words j = .solved →
    (g.puzzle clocks words i).grid.rows * (g.puzzle clocks words i).grid.cols <
      (g.puzzle clocks words j).grid.rows * (g.puzzle clocks words j).grid.cols

end Trials

variable {g : Generator} {clocks : Clocks} {words : List String} {i k m : Nat}

theorem mem_attempts : i ∈ List.range' 1 k ↔ 1 ≤ i ∧ i ≤ k := by
  rw [List.mem_range'_1]
  omega

theorem attempts_succ (k : Nat) : List.range' 1 (k + 1) = List.range' 1 k ++ [k + 1] := by
  rw [List.range'_1_concat, Nat.add_comm]

theorem solvedCount_succ (k : Nat) : g.solvedCount clocks words (k + 1) =
    g.solvedCount clocks words k + if g.outcome clocks words (k + 1) = .solved then 1 else 0 := by
  unfold solvedCount
  rw [attempts_succ, List.map_append, List.count_append, List.map_singleton, List.count_singleton]
  simp only [beq_iff_eq]

/-! ## The last attempt -/

/-- What is known of the last attempt. -/
theorem lastAttempt_spec (clocks : Clocks) (words : List String)
    (hmax : 1 ≤ g.config.maxAttempts) :
    (1 ≤ g.lastAttempt clocks words ∧ g.lastAttempt clocks words ≤ g.config.maxAttempts) ∧
    (∀ i, 1 ≤ i → i < g.lastAttempt clocks words → ¬ g.Settled clocks words i) ∧
    (g.Settled clocks words (g.lastAttempt clocks words) ∨
      g.lastAttempt clocks words = g.config.maxAttempts) := by
  unfold lastAttempt
  cases hfind : (List.range' 1 g.config.maxAttempts).find? fun i => g.Settled clocks words i with
  | none =>
    rw [Option.getD_none]
    refine ⟨⟨hmax, Nat.le_refl _⟩, fun i h1 hi => ?_, Or.inr rfl⟩
    simpa using List.find?_eq_none.mp hfind i (mem_attempts.mpr ⟨h1, Nat.le_of_lt hi⟩)
  | some m =>
    rw [Option.getD_some]
    obtain ⟨hsettled, hmem, hfirst⟩ := List.find?_range'_eq_some.mp hfind
    exact ⟨mem_attempts.mp hmem, fun i h1 hi => by simpa using hfirst i h1 hi,
      Or.inl (of_decide_eq_true hsettled)⟩

/-- Only the last attempt has these properties. -/
theorem lastAttempt_eq (hmade : 1 ≤ m ∧ m ≤ g.config.maxAttempts)
    (hfirst : ∀ i, 1 ≤ i → i < m → ¬ g.Settled clocks words i)
    (hlast : g.Settled clocks words m ∨ m = g.config.maxAttempts) :
    g.lastAttempt clocks words = m := by
  obtain ⟨⟨hone, hle⟩, hbefore, hend⟩ :=
    lastAttempt_spec clocks words (Nat.le_trans hmade.1 hmade.2)
  rcases Nat.lt_trichotomy (g.lastAttempt clocks words) m with hlt | heq | hgt
  · rcases hend with hsettled | hmax
    · exact absurd hsettled (hfirst _ hone hlt)
    · omega
  · exact heq
  · rcases hlast with hsettled | hmax
    · exact absurd hsettled (hbefore m hmade.1 hgt)
    · omega

/-- No attempt is made after one that settles the matter. -/
theorem lastAttempt_le (hmax : 1 ≤ g.config.maxAttempts) (h1 : 1 ≤ i)
    (h : g.Settled clocks words i) : g.lastAttempt clocks words ≤ i := by
  obtain ⟨-, hbefore, -⟩ := lastAttempt_spec clocks words hmax
  exact Nat.le_of_not_lt fun hlt => hbefore i h1 hlt h

/-! ## The campaign after some attempts -/

section Campaign

variable (g : Generator) (clocks : Clocks) (words : List String)

/-- What the first attempts come to. -/
def campaign : Nat → Campaign
  | 0 => { seeds := g.seeds }
  | k + 1 =>
    let c := (campaign k).drawSeed.2.note (g.report clocks words (k + 1))
    if g.outcome clocks words (k + 1) = .solved then c.keep (g.puzzle clocks words (k + 1)) else c

/-- The result of a call whose last attempt has a given number. -/
def result (m : Nat) : Except Error Puzzle :=
  if g.outcome clocks words m = .exhausted then
    .error (.infeasible m (g.totals clocks words m).deepest (g.prepared words).length)
  else (g.campaign clocks words m).verdict

/-- What one more attempt adds. -/
theorem campaign_succ (k : Nat) : g.campaign clocks words (k + 1) =
    { seeds := (g.campaign clocks words k).seeds.next64.2
      totals := (g.campaign clocks words k).totals.absorb
        (g.placer clocks words (k + 1)).statistics
      best :=
        if g.outcome clocks words (k + 1) = .solved then
          some (Campaign.smaller (g.campaign clocks words k).best (g.puzzle clocks words (k + 1)))
        else (g.campaign clocks words k).best
      solved := (g.campaign clocks words k).solved +
        if g.outcome clocks words (k + 1) = .solved then 1 else 0
      reports := (g.campaign clocks words k).reports.push (g.report clocks words (k + 1)) } := by
  rw [campaign]
  by_cases hsolved : g.outcome clocks words (k + 1) = .solved
  · rw [if_pos hsolved, if_pos hsolved, if_pos hsolved]
    rfl
  · rw [if_neg hsolved, if_neg hsolved, if_neg hsolved]
    rfl

theorem seeds_campaign (k : Nat) : (g.campaign clocks words k).seeds = g.seeds.after k := by
  induction k with
  | zero => rfl
  | succ k ih => rw [campaign_succ, ih, Keystream.after]

theorem totals_campaign (k : Nat) :
    (g.campaign clocks words k).totals = g.totals clocks words k := by
  induction k with
  | zero => rfl
  | succ k ih =>
    unfold totals at ih ⊢
    rw [campaign_succ, ih, attempts_succ, List.map_append, Statistics.total_append,
      List.map_singleton, Statistics.total_singleton]

theorem reports_campaign (k : Nat) :
    (g.campaign clocks words k).reports.toList = (List.range' 1 k).map (g.report clocks words) := by
  induction k with
  | zero => rfl
  | succ k ih =>
    rw [campaign_succ, Array.toList_push, ih, attempts_succ, List.map_append, List.map_singleton]

theorem solved_campaign (k : Nat) :
    (g.campaign clocks words k).solved = g.solvedCount clocks words k := by
  induction k with
  | zero => rfl
  | succ k ih => rw [campaign_succ, ih, solvedCount_succ]

end Campaign

/-- The best puzzle stays the best if the next attempt finds no smaller one. -/
theorem IsBest.succ (h : g.IsBest clocks words k i)
    (hnew : g.outcome clocks words (k + 1) = .solved →
      (g.puzzle clocks words i).area ≤ (g.puzzle clocks words (k + 1)).area) :
    g.IsBest clocks words (k + 1) i where
  made := ⟨h.made.1, Nat.le_succ_of_le h.made.2⟩
  solved := h.solved
  least := by
    intro j h1 hj hsolved
    rcases Nat.of_le_succ hj with hold | rfl
    · exact h.least j h1 hold hsolved
    · exact hnew hsolved
  earliest := h.earliest

/-- A puzzle that is smaller than all before it is the best. -/
theorem isBest_succ_self (hsolved : g.outcome clocks words (k + 1) = .solved)
    (hless : ∀ j, 1 ≤ j → j ≤ k → g.outcome clocks words j = .solved →
      (g.puzzle clocks words (k + 1)).area < (g.puzzle clocks words j).area) :
    g.IsBest clocks words (k + 1) (k + 1) where
  made := ⟨Nat.le_add_left .., Nat.le_refl _⟩
  solved := hsolved
  least := by
    intro j h1 hj hj'
    rcases Nat.of_le_succ hj with hold | rfl
    · exact Nat.le_of_lt (hless j h1 hold hj')
    · exact Nat.le_refl _
  earliest := fun j h1 hj hj' => hless j h1 (Nat.le_of_lt_succ hj) hj'

/-- The campaign keeps the best puzzle, if there is one. -/
theorem best_campaign (g : Generator) (clocks : Clocks) (words : List String) (k : Nat) :
    match (g.campaign clocks words k).best with
    | none => ∀ i, 1 ≤ i → i ≤ k → g.outcome clocks words i ≠ .solved
    | some p => ∃ i, g.IsBest clocks words k i ∧ p = g.puzzle clocks words i := by
  induction k with
  | zero => exact fun i h1 h0 => by omega
  | succ k ih =>
    rw [campaign_succ]
    dsimp only
    by_cases hsolved : g.outcome clocks words (k + 1) = .solved
    · rw [if_pos hsolved]
      cases hold : (g.campaign clocks words k).best with
      | none =>
        rw [hold] at ih
        exact ⟨k + 1, isBest_succ_self hsolved fun j h1 hj hj' => absurd hj' (ih j h1 hj), rfl⟩
      | some p =>
        rw [hold] at ih
        obtain ⟨i, hi, rfl⟩ := ih
        by_cases hless : (g.puzzle clocks words (k + 1)).area < (g.puzzle clocks words i).area
        · exact ⟨k + 1, isBest_succ_self hsolved fun j h1 hj hj' =>
            Nat.lt_of_lt_of_le hless (hi.least j h1 hj hj'), if_pos hless⟩
        · exact ⟨i, hi.succ fun _ => Nat.not_lt.mp hless, if_neg hless⟩
    · rw [if_neg hsolved]
      cases hold : (g.campaign clocks words k).best with
      | none =>
        rw [hold] at ih
        intro i h1 hi
        rcases Nat.of_le_succ hi with hi | rfl
        · exact ih i h1 hi
        · exact hsolved
      | some p =>
        rw [hold] at ih
        obtain ⟨i, hi, rfl⟩ := ih
        exact ⟨i, hi.succ fun h => absurd h hsolved, rfl⟩

/-! ## The attempts that are made -/

/-- As long as the matter is not settled, fewer layouts are found than are compared. -/
theorem solvedCount_lt (hvalid : g.config.check = .ok ())
    (hopen : ∀ i, 1 ≤ i → i ≤ k → ¬ g.Settled clocks words i) :
    g.solvedCount clocks words k < g.config.bestOf := by
  rcases Nat.eq_zero_or_pos k with rfl | hpos
  · exact (Config.one_le_of_check hvalid).2
  · exact Nat.lt_of_not_le fun h => hopen k hpos (Nat.le_refl k) (Or.inr h)

/-- One step of the loop: the next attempt is made, and it is the last one if it settles the
matter. -/
theorem attempts_step (hfew : g.solvedCount clocks words k < g.config.bestOf)
    (hcheck : (g.placer clocks words (k + 1)).draft.layout.check
      (g.placer clocks words (k + 1)).draft.grid = .ok ()) (count : Nat) :
    Campaign.attempts g.config clocks (g.prepared words) (g.side words) (count + 1) (k + 1)
        (g.campaign clocks words k) =
      if g.Settled clocks words (k + 1) then
        (g.result clocks words (k + 1), g.campaign clocks words (k + 1))
      else
        Campaign.attempts g.config clocks (g.prepared words) (g.side words) count (k + 2)
          (g.campaign clocks words (k + 1)) := by
  have hseed : (g.campaign clocks words k).drawSeed.1 = g.seed (k + 1) := by
    show (g.campaign clocks words k).seeds.next64.1 = _
    rw [seeds_campaign]
    rfl
  rw [Campaign.attempts_more]
  dsimp only
  rw [hseed]
  split
  · next habandoned =>
    have houtcome : g.outcome clocks words (k + 1) = .abandoned := habandoned
    have hunsolved : g.outcome clocks words (k + 1) ≠ .solved := by simp [houtcome]
    have hopen : ¬ g.Settled clocks words (k + 1) := by
      unfold Settled
      rw [houtcome, solvedCount_succ, if_neg hunsolved]
      simp only [reduceCtorEq, false_or]
      omega
    rw [if_neg hopen, campaign, if_neg hunsolved]
    rfl
  · next hexhausted =>
    have houtcome : g.outcome clocks words (k + 1) = .exhausted := hexhausted
    have hunsolved : g.outcome clocks words (k + 1) ≠ .solved := by simp [houtcome]
    have hsettled : g.Settled clocks words (k + 1) := Or.inl houtcome
    rw [if_pos hsettled, result, if_pos houtcome, ← totals_campaign, campaign, if_neg hunsolved]
    rfl
  · next hsolved =>
    have houtcome : g.outcome clocks words (k + 1) = .solved := hsolved
    have hunexhausted : g.outcome clocks words (k + 1) ≠ .exhausted := by simp [houtcome]
    have hnext : g.campaign clocks words (k + 1) =
        ((g.campaign clocks words k).drawSeed.2.note (g.report clocks words (k + 1))).keep
          (g.puzzle clocks words (k + 1)) := if_pos houtcome
    have hcount := solved_campaign g clocks words (k + 1)
    rw [hnext] at hcount
    split
    · next e herror =>
      -- what a solved attempt leaves has passed the check
      cases hcheck.symm.trans herror
    split
    · next henough =>
      have hsettled : g.Settled clocks words (k + 1) := Or.inr (hcount ▸ henough)
      rw [if_pos hsettled, result, if_neg hunexhausted, hnext]
      rfl
    · next hmore =>
      have hopen : ¬ g.Settled clocks words (k + 1) := fun h =>
        hmore (hcount ▸ h.resolve_left hunexhausted)
      rw [if_neg hopen, hnext]
      rfl

/-- The loop makes the attempts up to the last one, and no other. -/
theorem attempts_campaign (hvalid : g.config.check = .ok ())
    (hcheck : ∀ i, (g.placer clocks words i).draft.layout.check
      (g.placer clocks words i).draft.grid = .ok ())
    {count : Nat} (hk : k + count = g.config.maxAttempts)
    (hopen : ∀ i, 1 ≤ i → i ≤ k → ¬ g.Settled clocks words i) :
    Campaign.attempts g.config clocks (g.prepared words) (g.side words) count (k + 1)
        (g.campaign clocks words k) =
      (g.result clocks words (g.lastAttempt clocks words),
        g.campaign clocks words (g.lastAttempt clocks words)) := by
  have hmax := (Config.one_le_of_check hvalid).1
  induction count generalizing k with
  | zero =>
    -- no attempt is left, and none of them has settled the matter
    obtain rfl : k = g.config.maxAttempts := hk
    have hlast : g.lastAttempt clocks words = g.config.maxAttempts :=
      lastAttempt_eq ⟨hmax, Nat.le_refl _⟩ (fun i h1 hi => hopen i h1 (Nat.le_of_lt hi))
        (Or.inr rfl)
    rw [hlast, result, if_neg fun h => hopen _ hmax (Nat.le_refl _) (Or.inl h)]
    rfl
  | succ count ih =>
    rw [attempts_step (solvedCount_lt hvalid hopen) (hcheck _)]
    by_cases hsettled : g.Settled clocks words (k + 1)
    · have hlast : g.lastAttempt clocks words = k + 1 :=
        lastAttempt_eq ⟨Nat.le_add_left .., by omega⟩
          (fun i h1 hi => hopen i h1 (Nat.le_of_lt_succ hi)) (Or.inl hsettled)
      rw [if_pos hsettled, hlast]
    · rw [if_neg hsettled]
      refine ih (by omega) fun i h1 hi => ?_
      rcases Nat.of_le_succ hi with hi | rfl
      · exact hopen i h1 hi
      · exact hsettled

/-- An attempt counts itself. -/
theorem attempts_placer (i : Nat) : (g.placer clocks words i).statistics.attempts = 1 :=
  attempts_placeWords ..

/-- The totals count the attempts. -/
theorem attempts_totals (k : Nat) : (g.totals clocks words k).attempts = k := by
  have hone : (List.range' 1 k).map (fun i => (g.placer clocks words i).statistics.attempts) =
      List.replicate k 1 := by
    rw [List.map_congr_left fun i _ => attempts_placer i, List.map_const', List.length_range']
  unfold totals
  rw [Statistics.attempts_total, List.map_map, Function.comp_def, hone, List.sum_replicate,
    smul_eq_mul, Nat.mul_one]

/-- The prepared words are as many as the words. -/
theorem length_prepared (g : Generator) (words : List String) :
    (g.prepared words).length = words.length :=
  List.length_map _

/-- What an attempt with accepted words leaves has passed the check. -/
theorem check_placer (haccepted : checkWords (g.prepared words) (g.side words) = .ok ())
    (hfew : words.length ≤ maxOwners) (i : Nat) :
    (g.placer clocks words i).draft.layout.check (g.placer clocks words i).draft.grid = .ok () :=
  (Placer.sound_run_of_accepted haccepted (length_prepared g words ▸ hfew) _ _ _).check_eq_ok

/-- A call refuses its words, or else makes attempts with them. -/
theorem generate_eq (g : Generator) (clocks : Clocks) (words : List String) :
    g.generate clocks words =
      match checkWords (g.prepared words) (g.side words) with
      | .error e => (.error e, #[], g)
      | .ok () =>
        let (result, c) := Campaign.attempts g.config clocks (g.prepared words) (g.side words)
          g.config.maxAttempts 1 { seeds := g.seeds }
        (result, c.reports, { g with seeds := c.seeds }) :=
  rfl

/-- **The attempts of a call.** A call with accepted words makes the attempts up to the last one and
no other. The seeds of these attempts are what it draws. -/
theorem generate_of_accepted (clocks : Clocks) (hvalid : g.config.check = .ok ())
    (haccepted : checkWords (g.prepared words) (g.side words) = .ok ())
    (hfew : words.length ≤ maxOwners) :
    g.generate clocks words =
      (g.result clocks words (g.lastAttempt clocks words),
        (g.campaign clocks words (g.lastAttempt clocks words)).reports,
        { g with seeds := g.seeds.after (g.lastAttempt clocks words) }) := by
  have hloop : Campaign.attempts g.config clocks (g.prepared words) (g.side words)
      g.config.maxAttempts 1 { seeds := g.seeds } = _ :=
    attempts_campaign hvalid (check_placer haccepted hfew) (Nat.zero_add _)
      fun i h1 h0 => absurd (Nat.le_trans h1 h0) (Nat.not_succ_le_zero 0)
  rw [generate_eq, haccepted]
  dsimp only
  rw [hloop, seeds_campaign]

end Generator

end Crossword
