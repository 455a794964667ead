import Crossword.Proofs.Balance
import Crossword.Proofs.MoreAttempts
import Mathlib

/-!
# Exhaustion and chance

A search that is exhausted has gone through all there is to try. What it has counted depends on the
words and the side alone (`Placer.effort`): not on the stream that puts the anchors in order, nor on
its limits. A search that is abandoned has counted no more. So the depth that is reported of an
infeasible list is squeezed between the attempt that was exhausted and those that might have gone
deeper before it, and it is the same for every generator (`Generator.infeasible_eq`).

Main result: `exhaustion_is_free_of_chance`.
-/

namespace Crossword

namespace Placer

/-! ## What an exhausted run counts -/

/-- What a first run counts on words that have no layout. -/
def effort (words : List String) (side : Nat) : Statistics :=
  (Draft.blank side).effort true (orderWords words)

section Run

variable {words : List String} {side : Nat} (hwords : checkWords words side = .ok ())
  (hfew : words.length ≤ maxOwners) {budget : Budget} {clock : Clock} {stream : Keystream}

include hwords hfew

/-- A first run that is exhausted has counted the effort. -/
theorem counters_of_exhausted
    (h : ((onSide words side budget).run clock stream).1 = .exhausted) :
    let s := ((onSide words side budget).run clock stream).2.1.statistics
    s.states = (effort words side).states ∧ s.candidates = (effort words side).candidates ∧
      s.backtracks = (effort words side).backtracks ∧
      s.deepest = (effort words side).deepest := by
  have hcounted := (effort_placeWords budget clock (Draft.sound_blank side)
    (reach_walk_le hwords hfew budget stream)).1 h
  have heq := hcounted.trans (Statistics.attempt_absorb (effort words side))
  exact ⟨congrArg (·.states) heq, congrArg (·.candidates) heq, congrArg (·.backtracks) heq,
    congrArg (·.deepest) heq⟩

/-- A first run that is abandoned has counted no more than the effort. -/
theorem counters_of_abandoned
    (h : ((onSide words side budget).run clock stream).1 = .abandoned) :
    let s := ((onSide words side budget).run clock stream).2.1.statistics
    s.states ≤ (effort words side).states ∧ s.candidates ≤ (effort words side).candidates ∧
      s.backtracks ≤ (effort words side).backtracks ∧
      s.deepest ≤ (effort words side).deepest := by
  have hcounted := (effort_placeWords budget clock (Draft.sound_blank side)
    (reach_walk_le hwords hfew budget stream)).2 h
  have hway := Statistics.attempt_absorb (effort words side) ▸ hcounted
  exact hway.le

end Run

end Placer

namespace Generator

variable {g : Generator} {clocks : Clocks} {words : List String}

/-- The attempts before one that is exhausted have come no further. -/
theorem deepest_totals_of_exhausted
    (hwords : checkWords (g.prepared words) (g.side words) = .ok ())
    (hfew : words.length ≤ maxOwners) {m : Nat} (hm : 1 ≤ m)
    (h : g.outcome clocks words m = .exhausted) :
    (g.totals clocks words m).deepest =
      (Placer.effort (g.prepared words) (g.side words)).deepest := by
  have hroom : (g.prepared words).length ≤ maxOwners := length_prepared g words ▸ hfew
  unfold totals
  refine Nat.le_antisymm ?_ ?_
  · rw [Statistics.deepest_total_le_iff, List.forall_mem_map]
    intro i _
    cases houtcome : g.outcome clocks words i with
    | solved => exact absurd h (outcome_ne_exhausted hwords hfew houtcome m)
    | exhausted =>
      exact Nat.le_of_eq (Placer.counters_of_exhausted hwords hroom houtcome).2.2.2
    | abandoned => exact (Placer.counters_of_abandoned hwords hroom houtcome).2.2.2
  · rw [← (Placer.counters_of_exhausted hwords hroom h).2.2.2]
    exact Statistics.deepest_total_le_iff.mp (Nat.le_refl _) _
      (List.mem_map_of_mem (mem_attempts.mpr ⟨hm, Nat.le_refl m⟩))

/-- What is reported of an infeasible list: how many words have been placed, which is some but not
all of them, and how many there are. -/
theorem infeasible_eq (hvalid : g.config.check = .ok ()) (hfew : words.length ≤ maxOwners)
    {tries placed total : Nat}
    (h : (g.generate clocks words).1 = .error (.infeasible tries placed total)) :
    placed = (Placer.effort (g.prepared words) (g.side words)).deepest ∧ total = words.length ∧
      1 ≤ placed ∧ placed < total := by
  obtain ⟨hwords, hresult⟩ := result_of_generate hvalid hfew h nofun
  obtain ⟨hexhausted, -, hplaced, htotal⟩ := result_eq_infeasible_iff.mp hresult
  have hone := (lastAttempt_spec clocks words (Config.one_le_of_check hvalid).1).1.1
  rw [deepest_totals_of_exhausted hwords hfew hone hexhausted] at hplaced
  have hroom : (g.prepared words).length ≤ maxOwners := length_prepared g words ▸ hfew
  have hbounds := Placer.deepest_of_exhausted hwords hexhausted
  rw [(Placer.counters_of_exhausted hwords hroom hexhausted).2.2.2, ← hplaced, length_prepared,
    ← htotal] at hbounds
  exact ⟨hplaced, htotal, hbounds⟩

end Generator

/-- **Exhaustion is free of chance.** Two first runs on the same accepted words and side that are
exhausted have counted the same states, candidates and backtracks and have come as far, whatever
their budgets, clocks and streams; and one that is abandoned has counted no more. So generators that
agree on the letter case and the side report the same of a list that they find infeasible: how many
words they have placed, which is some of them but not all, and how many there are. -/
theorem exhaustion_is_free_of_chance {words : List String} (hfew : words.length < 2 ^ 32) :
    (∀ (side : Nat) (budget budget' : Budget) (p q : Placer) (clock clock' : Clock)
        (stream stream' : Keystream),
      Placer.ofWordsOnSide words side budget = .ok p →
      Placer.ofWordsOnSide words side budget' = .ok q →
      (p.run clock stream).1 = .exhausted →
      let s := (p.run clock stream).2.1.statistics
      let t := (q.run clock' stream').2.1.statistics
      ((q.run clock' stream').1 = .exhausted → t.states = s.states ∧
        t.candidates = s.candidates ∧ t.backtracks = s.backtracks ∧ t.deepest = s.deepest) ∧
      ((q.run clock' stream').1 = .abandoned → t.states ≤ s.states ∧
        t.candidates ≤ s.candidates ∧ t.backtracks ≤ s.backtracks ∧ t.deepest ≤ s.deepest)) ∧
    (∀ (g h : Generator) (clocks clocks' : Clocks) (tries placed total tries' placed' total' : Nat),
      g.config.check = .ok () → h.config.check = .ok () →
      h.config.casePolicy = g.config.casePolicy → h.config.gridSide = g.config.gridSide →
      (g.generate clocks words).1 = .error (.infeasible tries placed total) →
      (h.generate clocks' words).1 = .error (.infeasible tries' placed' total') →
      placed' = placed ∧ total' = total ∧ 1 ≤ placed ∧ placed < total) := by
  have hroom : words.length ≤ maxOwners := Nat.le_sub_one_of_lt hfew
  refine ⟨?_, ?_⟩
  · intro side budget budget' p q clock clock' stream stream' hp hq hexhausted s t
    obtain ⟨hwords, rfl⟩ := Placer.ofWordsOnSide_eq_ok_iff.mp hp
    obtain ⟨-, rfl⟩ := Placer.ofWordsOnSide_eq_ok_iff.mp hq
    obtain ⟨hstates, hcandidates, hbacktracks, hdeepest⟩ :=
      Placer.counters_of_exhausted hwords hroom hexhausted
    rw [show s.states = _ from hstates, show s.candidates = _ from hcandidates,
      show s.backtracks = _ from hbacktracks, show s.deepest = _ from hdeepest]
    exact ⟨Placer.counters_of_exhausted hwords hroom, Placer.counters_of_abandoned hwords hroom⟩
  · intro g h clocks clocks' tries placed total tries' placed' total' hg hh hcase hside hfirst
      hsecond
    obtain ⟨hplaced, htotal, hbounds⟩ := Generator.infeasible_eq hg hroom hfirst
    obtain ⟨hplaced', htotal', -⟩ := Generator.infeasible_eq hh hroom hsecond
    -- the prepared words and the side are all that the effort depends on
    have hprepared : h.prepared words = g.prepared words := by
      unfold Generator.prepared
      rw [hcase]
    have hsides : h.side words = g.side words := by
      unfold Generator.side Config.sideFor
      rw [hprepared, hside]
    rw [hprepared, hsides] at hplaced'
    exact ⟨hplaced'.trans hplaced.symm, htotal'.trans htotal.symm, hbounds⟩

/-- Two words without a common letter exhaust a first run whatever the stream, and a run that may
take back a single placement is abandoned before it has counted more. With another seed, a generator
that finds them infeasible reports the same. -/
theorem exhaustion_of_disjoint_words :
    let s := ((Placer.onSide ["AB", "CD"] 4 ⟨10, none⟩).run .still (.ofSeed 1)).2.1.statistics
    let t := ((Placer.onSide ["AB", "CD"] 4 ⟨20, none⟩).run .still (.ofSeed 2)).2.1.statistics
    let u := ((Placer.onSide ["AB", "CD"] 4 ⟨1, none⟩).run .still (.ofSeed 1)).2.1.statistics
    t.states = s.states ∧ u.states ≤ s.states ∧
      ∀ tries placed total,
        ((⟨.usual, .ofSeed 7⟩ : Generator).generate .still ["AB", "CD"]).1 =
          .error (.infeasible tries placed total) → placed = 1 ∧ total = 2 := by
  have hfew : ["AB", "CD"].length < 2 ^ 32 := by decide
  have haccepted : ∀ limit, Placer.ofWordsOnSide ["AB", "CD"] 4 ⟨limit, none⟩ =
      .ok (Placer.onSide ["AB", "CD"] 4 ⟨limit, none⟩) := by
    intro limit
    exact Placer.ofWordsOnSide_eq_ok_iff.mpr ⟨by cbv, rfl⟩
  have hexhausted : ((Placer.onSide ["AB", "CD"] 4 ⟨10, none⟩).run .still (.ofSeed 1)).1 =
      .exhausted := by cbv
  obtain ⟨hruns, hcalls⟩ := exhaustion_is_free_of_chance hfew
  have hother := hruns 4 ⟨10, none⟩ ⟨20, none⟩ _ _ .still .still (.ofSeed 1) (.ofSeed 2)
    (haccepted 10) (haccepted 20) hexhausted
  have hshort := hruns 4 ⟨10, none⟩ ⟨1, none⟩ _ _ .still .still (.ofSeed 1) (.ofSeed 1)
    (haccepted 10) (haccepted 1) hexhausted
  refine ⟨(hother.1 (by cbv)).1, (hshort.2 (by cbv)).1, fun tries placed total h => ?_⟩
  have hfirst : ((⟨.usual, .ofSeed 42⟩ : Generator).generate .still ["AB", "CD"]).1 =
      .error (.infeasible 1 1 2) := by cbv
  obtain ⟨hplaced, htotal, -⟩ := hcalls ⟨.usual, .ofSeed 42⟩ ⟨.usual, .ofSeed 7⟩ .still .still
    1 1 2 tries placed total rfl rfl rfl rfl hfirst h
  exact ⟨hplaced, htotal⟩

end Crossword
