import Crossword.Proofs.Effort
import Crossword.Proofs.Runs
import Mathlib

/-!
# Budgets cut a search short

Two searches for the same words under different budgets do the same things, step by step, until one
of them is abandoned: a budget is looked at when a state is entered, and nothing else depends on it.
So if the second budget is never spent before the first, the first search either ends as the second
does, or it is abandoned on the way there (`truncates_placeWords`). The counters of the first may be
ahead by those of earlier searches.

Main result: `Placer.budgets_only_truncate`.
-/

namespace Crossword

theorem rising_onTheWay : Rising Statistics.OnTheWay where
  refl := Statistics.OnTheWay.refl
  trans := Statistics.OnTheWay.trans
  count _ more _ := ⟨more, rfl⟩

/-! ## Counters that are ahead -/

namespace Walk

/-- The walk with counters that are ahead by those of earlier searches. -/
def ahead (lead : Statistics) (w : Walk) : Walk :=
  { w with statistics := lead.absorb w.statistics }

section Ahead

variable (lead : Statistics) (w : Walk) (first : Bool) (word : String)

@[simp] theorem placement?_ahead (a : Anchor) :
    (w.ahead lead).placement? word a = w.placement? word a := rfl

@[simp] theorem enter_ahead : (w.ahead lead).enter = w.enter.ahead lead := rfl

@[simp] theorem tries_ahead : (w.ahead lead).tries first word = w.tries first word := rfl

@[simp] theorem start_ahead :
    (w.ahead lead).start first word = (w.start first word).ahead lead := by
  have hcount : ((w.ahead lead).start first word).statistics =
      lead.absorb (w.start first word).statistics := by
    rw [statistics_start, statistics_start, ← Statistics.absorb_assoc]
    rfl
  exact Walk.mk.injEq .. ▸ ⟨rfl, hcount, rfl⟩

@[simp] theorem place_ahead (p : Placement) :
    (w.ahead lead).place word p = (w.place word p).ahead lead := by
  have hcount : ((w.ahead lead).place word p).statistics =
      lead.absorb (w.place word p).statistics := by
    rw [statistics_place, statistics_place, ← Statistics.absorb_assoc]
    rfl
  exact Walk.mk.injEq .. ▸ ⟨rfl, hcount, rfl⟩

end Ahead

/-- Nothing puts no counter ahead. -/
@[simp] theorem ahead_empty (w : Walk) : w.ahead {} = w := by
  rw [ahead, Statistics.empty_absorb]

end Walk

/-! ## Lock step -/

/-- What becomes of a search, compared with one that is given more: it ends alike, its counters
ahead by `lead`, or it is abandoned on the way there, with counters of which `stop` holds. -/
inductive Truncates (lead : Statistics) (stop : Statistics → Prop) :
    Outcome × Walk → Outcome × Walk → Prop
  | alike (outcome : Outcome) (w : Walk) :
      Truncates lead stop (outcome, w.ahead lead) (outcome, w)
  | short {u : Walk} {s : Statistics} {result : Outcome × Walk}
      (hcount : u.statistics = lead.absorb s) (hstop : stop s)
      (hway : s.OnTheWay result.2.statistics) : Truncates lead stop (.abandoned, u) result

section Truncates

variable {lead : Statistics} {stop : Statistics → Prop} {word : String}
  {next next' : Walk → Outcome × Walk}

/-- Trying anchors goes on in lock step as long as the searches after the word do. -/
theorem truncates_tryAnchors
    (hnext : ∀ v : Walk, Truncates lead stop (next (v.ahead lead)) (next' v))
    (hrise : ∀ v : Walk, v.statistics.OnTheWay (next' v).2.statistics) (anchors : List Anchor)
    (v : Walk) : Truncates lead stop (tryAnchors word next anchors (v.ahead lead))
      (tryAnchors word next' anchors v) := by
  induction anchors generalizing v with
  | nil => exact .alike .exhausted v
  | cons a rest ih =>
    cases hp : v.placement? word a with
    | none =>
      simp only [tryAnchors_cons, Walk.placement?_ahead, hp]
      exact ih v
    | some p =>
      have hplace := hnext (v.place word p)
      have hlater := rising_onTheWay.tryAnchors_cons hrise hp rest
      simp only [tryAnchors_cons, Walk.placement?_ahead, Walk.place_ahead, hp] at hlater ⊢
      generalize next ((v.place word p).ahead lead) = result at hplace ⊢
      generalize next' (v.place word p) = result' at hplace hlater ⊢
      cases hplace with
      | alike outcome u =>
        cases outcome with
        | solved => exact .alike .solved u
        | abandoned => exact .alike .abandoned u.takeBack
        | exhausted => exact ih u.takeBack.countBacktrack
      | short hcount hstop hway =>
        -- what the other search does from here on only adds to its counters
        exact .short hcount hstop (hway.trans hlater)

/-- **Lock step.** If the second budget is spent only where the first one is, for counters that are
ahead by `lead`, then the search under the first budget ends as the other does, or it is abandoned
on the way, at counters for which only the first budget is spent. -/
theorem truncates_placeWords {budget budget' : Budget} {clock clock' : Clock}
    (hspent : ∀ s : Statistics, budget'.spent clock' s = true →
      budget.spent clock (lead.absorb s) = true)
    (first : Bool) (words : List String) (w : Walk) :
    Truncates lead
      (fun s => budget.spent clock (lead.absorb s) = true ∧ budget'.spent clock' s = false)
      (placeWords budget clock first words (w.ahead lead))
      (placeWords budget' clock' first words w) := by
  induction words generalizing first w with
  | nil => exact .alike .solved w
  | cons word rest ih =>
    have hlater := rising_onTheWay.enter_placeWords budget' clock' first word rest w
    rw [placeWords_cons, Walk.enter_ahead]
    by_cases hhere : budget.spent clock (lead.absorb w.enter.statistics) = true
    · rw [if_pos (show budget.spent clock (w.enter.ahead lead).statistics = true from hhere)]
      cases hthere : budget'.spent clock' w.enter.statistics with
      | true =>
        rw [placeWords_cons, if_pos hthere]
        exact .alike .abandoned w.enter
      | false => exact .short rfl ⟨hhere, hthere⟩ hlater
    · have hthere : ¬ budget'.spent clock' w.enter.statistics = true := fun h => hhere (hspent _ h)
      rw [if_neg (show ¬ budget.spent clock (w.enter.ahead lead).statistics = true from hhere),
        placeWords_cons, if_neg hthere, Walk.tries_ahead, Walk.start_ahead]
      exact truncates_tryAnchors (ih false)
        (rising_onTheWay.placeWords budget' clock' false rest) _ _

end Truncates

/-- A search that is cut short is on the way to where it would have ended. -/
theorem Truncates.onTheWay {stop : Statistics → Prop} {result result' : Outcome × Walk}
    (h : Truncates {} stop result result') :
    result.2.statistics.OnTheWay result'.2.statistics := by
  cases h with
  | alike outcome w =>
    rw [Walk.ahead_empty]
    exact .refl _
  | short hcount hstop hway =>
    rw [hcount, Statistics.empty_absorb]
    exact hway

/-- A search is not cut short, or it is abandoned at counters of which `stop` holds. -/
theorem Truncates.eq_or_short {stop : Statistics → Prop} {result result' : Outcome × Walk}
    (h : Truncates {} stop result result') :
    result = result' ∨ result.1 = .abandoned ∧ stop result.2.statistics := by
  cases h with
  | alike outcome w =>
    rw [Walk.ahead_empty]
    exact Or.inl rfl
  | short hcount hstop hway =>
    rw [hcount, Statistics.empty_absorb]
    exact Or.inr ⟨rfl, hstop⟩

/-- A search whose counters are ahead goes as one without, if the budgets are spent at the same
times. -/
theorem placeWords_ahead {lead : Statistics} {budget budget' : Budget} {clock clock' : Clock}
    (hspent : ∀ s : Statistics,
      budget'.spent clock' s = true ↔ budget.spent clock (lead.absorb s) = true)
    (first : Bool) (words : List String) (w : Walk) :
    placeWords budget clock first words (w.ahead lead) =
      ((placeWords budget' clock' first words w).1,
        (placeWords budget' clock' first words w).2.ahead lead) := by
  have hstep := truncates_placeWords (fun s => (hspent s).mp) first words w
  generalize placeWords budget clock first words (w.ahead lead) = result at hstep ⊢
  generalize placeWords budget' clock' first words w = result' at hstep ⊢
  cases hstep with
  | alike outcome u => rfl
  | @short _ s _ _ hstop _ =>
    -- no budget is spent before the other
    have hother := (hspent s).mpr hstop.1
    exact absurd (hother.symm.trans hstop.2) Bool.noConfusion

/-! ## The first look at the clock -/

section ZeroLimit

variable {budget : Budget} {clock : Clock}

/-- Holds of a search that does not go past the first look at the clock, and that does not get there
unless it is abandoned. -/
def StopsAtClock (next : Walk → Outcome × Walk) : Prop :=
  ∀ w : Walk, w.statistics.states < Budget.clockInterval →
    (next w).2.statistics.states ≤ Budget.clockInterval ∧
      ((next w).1 ≠ .abandoned → (next w).2.statistics.states < Budget.clockInterval)

/-- Anchors tried in vain do not get to the first look at the clock. -/
theorem Tried.states_lt {word : String} {next : Walk → Outcome × Walk} (hnext : StopsAtClock next)
    {anchors : List Anchor} {v w : Walk} (h : Tried word next anchors v w)
    (hv : v.statistics.states < Budget.clockInterval) :
    w.statistics.states < Budget.clockInterval := by
  induction h with
  | nil => exact hv
  | skip _ _ ih => exact ih hv
  | @back _ _ v _ _ p _ heq _ ih =>
    have hplace := (hnext (v.place word p) hv).2
    rw [heq] at hplace
    exact ih (hplace Outcome.noConfusion)

/-- With a time limit of zero, a search does not go past the first look at the clock. -/
theorem stopsAtClock_placeWords (htime : budget.timeLimit = some 0) (first : Bool)
    (words : List String) : StopsAtClock (placeWords budget clock first words) := by
  induction words generalizing first with
  | nil => exact fun w hw => ⟨Nat.le_of_lt hw, fun _ => hw⟩
  | cons word rest ih =>
    intro w hw
    rcases placeWords_end budget clock first word rest w with ⟨-, heq⟩ | ⟨hmore, hend⟩
    · rw [heq]
      exact ⟨hw, fun h => absurd rfl h⟩
    · -- the clock was not looked at, so the state that was entered is an earlier one
      have hunspent : ¬ budget.spent clock w.enter.statistics = true := by simp [hmore]
      rw [Budget.spent_zero_iff htime, not_or] at hunspent
      have hstart : (w.start first word).statistics.states < Budget.clockInterval := by
        refine Nat.lt_of_le_of_ne hw fun heq => hunspent.2 ?_
        rw [show w.enter.statistics.states = _ from heq, Nat.mod_self]
      generalize placeWords budget clock first (word :: rest) w = result at hend
      cases hend with
      | exhausted htried =>
        have hall := htried.states_lt (ih false) hstart
        exact ⟨Nat.le_of_lt hall, fun _ => hall⟩
      | @solved _ _ _ u _ p _ htried _ heq =>
        have hplace := (ih false (u.place word p) (htried.states_lt (ih false) hstart)).2
        rw [heq] at hplace
        have hall := hplace Outcome.noConfusion
        exact ⟨Nat.le_of_lt hall, fun _ => hall⟩
      | @abandoned _ _ _ u _ p _ htried _ heq =>
        have hplace := (ih false (u.place word p) (htried.states_lt (ih false) hstart)).1
        rw [heq] at hplace
        exact ⟨hplace, fun h => absurd rfl h⟩

/-- A search that is abandoned has entered a state. -/
theorem states_lt_of_abandoned {first : Bool} {words : List String} {w : Walk}
    (h : (placeWords budget clock first words w).1 = .abandoned) :
    w.statistics.states < (placeWords budget clock first words w).2.statistics.states := by
  cases words with
  | nil => cases h
  | cons word rest =>
    exact (rising_onTheWay.enter_placeWords budget clock first word rest w).le.1

end ZeroLimit

/-! ## First runs -/

/-- The counters apart from the time spent. -/
def Statistics.untimed (s : Statistics) : Statistics := { s with elapsed := 0 }

namespace Placer

/-- Two runs end alike: in the same way, with the same draft and the same counters, apart from the
time spent, and with the stream at the same place. -/
structure EndsAlike (r r' : Outcome × Placer × Keystream) : Prop where
  outcome : r.1 = r'.1
  draft : r.2.1.draft = r'.2.1.draft
  counters : r.2.1.statistics.untimed = r'.2.1.statistics.untimed
  stream : r.2.2 = r'.2.2

/-- Runs whose searches are the same end alike. -/
theorem EndsAlike.of_placeWords {p p' : Placer} {clock clock' : Clock} {stream stream' : Keystream}
    (h : placeWords p.budget clock true p.words (p.walk stream) =
      placeWords p'.budget clock' true p'.words (p'.walk stream')) :
    EndsAlike (p.run clock stream) (p'.run clock' stream') where
  outcome := congrArg (·.1) h
  draft := congrArg (·.2.draft) h
  counters := congrArg (·.2.statistics.untimed) h
  stream := congrArg (·.2.stream) h

section Truncation

variable (words : List String) (side : Nat) {budget budget' : Budget} {clock clock' : Clock}

/-- Where a first run under one budget does not end as it does under another one, it is abandoned on
the way there, at counters for which only the first budget is spent. -/
theorem endsAlike_or_abandoned (hspent : ∀ s : Statistics, budget'.spent clock' s = true →
      budget.spent clock s = true) (stream : Keystream) :
    let r := (onSide words side budget).run clock stream
    let r' := (onSide words side budget').run clock' stream
    let s := r.2.1.statistics
    let s' := r'.2.1.statistics
    (EndsAlike r r' ∨
      r.1 = .abandoned ∧ budget.spent clock s = true ∧ budget'.spent clock' s = false) ∧
    s.states ≤ s'.states ∧ s.candidates ≤ s'.candidates ∧ s.backtracks ≤ s'.backtracks ∧
      s.deepest ≤ s'.deepest := by
  have hfirst : ∀ t : Statistics, budget'.spent clock' t = true →
      budget.spent clock (({} : Statistics).absorb t) = true := fun t ht =>
    (Statistics.empty_absorb t).symm ▸ hspent t ht
  have hstep := truncates_placeWords hfirst true (orderWords words)
    ((onSide words side budget).walk stream)
  simp only [Walk.ahead_empty, Statistics.empty_absorb] at hstep
  exact ⟨hstep.eq_or_short.imp (fun heq => .of_placeWords heq) id, hstep.onTheWay.le⟩

variable {words side} {p p' q : Placer} {limit limit' : Nat}

/-- **Budgets only truncate.** Of two first runs of accepted words from the same stream, without a
limit on time, the one with the larger budget ends as the other does, unless the other is abandoned;
then it counts no less. With a time limit of zero, a run ends as without one, or it is abandoned in
the sixty-fourth state; it never gets further. -/
theorem budgets_only_truncate (hle : limit ≤ limit')
    (h : ofWordsOnSide words side ⟨limit, none⟩ = .ok p)
    (h' : ofWordsOnSide words side ⟨limit', none⟩ = .ok p')
    (hzero : ofWordsOnSide words side ⟨limit, some 0⟩ = .ok q)
    (clock clock' clock₀ : Clock) (stream : Keystream) :
    let r := p.run clock stream
    let r' := p'.run clock' stream
    let z := q.run clock₀ stream
    let s := r.2.1.statistics
    let s' := r'.2.1.statistics
    (r.1 = .solved ∨ r.1 = .exhausted → EndsAlike r r') ∧
    (r.1 = .abandoned → s.states ≤ s'.states ∧ s.backtracks ≤ s'.backtracks ∧
      s.candidates ≤ s'.candidates ∧ s.deepest ≤ s'.deepest) ∧
    (EndsAlike z r ∨ z.1 = .abandoned ∧ z.2.1.statistics.states = 64) ∧
    z.2.1.statistics.states ≤ 64 := by
  intro r r' z s s'
  obtain ⟨-, rfl⟩ := ofWordsOnSide_eq_ok_iff.mp h
  obtain ⟨-, rfl⟩ := ofWordsOnSide_eq_ok_iff.mp h'
  obtain ⟨-, rfl⟩ := ofWordsOnSide_eq_ok_iff.mp hzero
  have hbacktracks : ∀ t : Statistics, Budget.spent ⟨limit', none⟩ clock' t = true →
      Budget.spent ⟨limit, none⟩ clock t = true := by
    intro t ht
    rw [Budget.spent_untimed_iff rfl] at ht ⊢
    exact Nat.le_trans hle ht
  have htime : ∀ t : Statistics, Budget.spent ⟨limit, none⟩ clock t = true →
      Budget.spent ⟨limit, some 0⟩ clock₀ t = true := by
    intro t ht
    rw [Budget.spent_untimed_iff rfl] at ht
    exact (Budget.spent_zero_iff rfl).mpr (Or.inl ht)
  obtain ⟨hmore, hstates, hcandidates, hundone, hdeepest⟩ :=
    endsAlike_or_abandoned words side hbacktracks stream
  obtain ⟨hclock, -⟩ := endsAlike_or_abandoned words side htime stream
  have hfirst : ((onSide words side ⟨limit, some 0⟩).walk stream).statistics.states <
      Budget.clockInterval := Nat.zero_lt_succ _
  have hstops : z.2.1.statistics.states ≤ 64 :=
    (stopsAtClock_placeWords rfl true (orderWords words) _ hfirst).1
  refine ⟨fun hends => ?_, fun _ => ⟨hstates, hundone, hcandidates, hdeepest⟩, ?_, hstops⟩
  · refine hmore.resolve_right fun hshort => ?_
    rw [hshort.1] at hends
    simp at hends
  · refine hclock.imp_right fun hshort => ⟨hshort.1, ?_⟩
    obtain ⟨habandoned, hspent, hunspent⟩ := hshort
    -- the budget of backtracks is not spent, so it was the clock, and a state has been entered
    have hlooked : z.2.1.statistics.states % 64 = 0 := by
      refine ((Budget.spent_zero_iff rfl).mp hspent).resolve_left fun hless => ?_
      have hother : Budget.spent ⟨limit, none⟩ clock z.2.1.statistics = true :=
        (Budget.spent_untimed_iff rfl).mpr hless
      exact Bool.noConfusion (hother.symm.trans hunspent)
    have hpos : 0 < z.2.1.statistics.states := states_lt_of_abandoned habandoned
    omega

end Truncation

/-- Words that have no letter in common: ten backtracks are enough to find that out, one is not. -/
theorem budgets_only_truncate_disjoint_words :
    let run := fun limit : Nat => (onSide ["AB", "CD"] 4 ⟨limit, none⟩).run .still (.ofSeed 1)
    EndsAlike (run 10) (run 20) ∧
      (run 1).2.1.statistics.states ≤ (run 10).2.1.statistics.states := by
  have haccepted : ∀ limit time, ofWordsOnSide ["AB", "CD"] 4 ⟨limit, time⟩ =
      .ok (onSide ["AB", "CD"] 4 ⟨limit, time⟩) := fun limit time =>
    ofWordsOnSide_eq_ok_iff.mpr ⟨by cbv, rfl⟩
  have hrun := fun limit limit' (hle : limit ≤ limit') =>
    budgets_only_truncate hle (haccepted limit none) (haccepted limit' none)
      (haccepted limit (some 0)) .still .still .still (.ofSeed 1)
  exact ⟨(hrun 10 20 (by decide)).1 (Or.inr (by cbv)),
    ((hrun 1 10 (by decide)).2.1 (by cbv)).1⟩

end Placer

end Crossword
