import Crossword.Proofs.Effort
import Crossword.Proofs.Outcomes
import Mathlib

/-!
# The balance of the counters

Each state that a search enters is accounted for: it is left by taking back the word before it, or
it is among those in which the search ends. So states and backtracks differ by the number of words
on the way to where it ended (`balances_placeWords`), and since a word can be laid out at every
anchor that is offered, a search that is exhausted has taken back as many words as there were
anchors. The budget is looked at only when a state is entered, so words taken back on the way up can
exceed it, but by less than one for each word after the first (`overshoots_placeWords`).

Main result: `Placer.counters_balance`.
-/

namespace Crossword

/-! ## States, candidates and backtracks -/

/-- What is counted between `s` and `t` by a search for a number of words, according to how it ends.
If it is exhausted, all candidates have been taken back, and there is one state more than that; if
it is solved, a state for each word; if it is abandoned, for some of the words. -/
def Statistics.Balanced (count : Nat) (s t : Statistics) : Outcome → Prop
  | .exhausted => t.states + s.backtracks = s.states + t.backtracks + 1 ∧
      t.candidates + s.backtracks = s.candidates + t.backtracks
  | .solved => t.states + s.backtracks = s.states + t.backtracks + count ∧
      s.candidates + t.backtracks + count ≤ t.candidates + s.backtracks
  | .abandoned => s.states + t.backtracks + 1 ≤ t.states + s.backtracks ∧
      t.states + s.backtracks ≤ s.states + t.backtracks + count

/-- Holds of a search for a number of words if what it counts always balances. -/
def Balances (count : Nat) (next : Walk → Outcome × Walk) : Prop :=
  ∀ v : Walk, v.draft.Counted → v.statistics.Balanced count (next v).2.statistics (next v).1

section Balance

variable {budget : Budget} {clock : Clock} {first : Bool} {word : String} {rest : List String}
  {w u : Walk}

/-- A word can be laid out at each anchor that is tried. -/
theorem Visit.exists_placement (hw : w.draft.Counted) {a : Anchor}
    (h : Visit word (placeWords budget clock false rest) (w.tries first word) (w.start first word)
      a u) : ∃ p, u.placement? word a = some p := by
  have hshape := ((restoring_fades _).returns budget clock hw h (Nat.le_refl _)).shape
  obtain ⟨p, hp⟩ :=
    Draft.exists_placement_of_mem_choices ((w.mem_tries first word).mp h.mem)
  rw [← Draft.rows_of_shape hshape, ← Draft.cols_of_shape hshape] at hp
  exact ⟨p, hp⟩

/-- A search for the words after one that has been placed balances. -/
theorem balanced_place
    (hrest : Balances rest.length (placeWords budget clock false rest))
    (hw : w.draft.Counted) {a : Anchor} {p : Placement} {outcome : Outcome} {t : Walk}
    (hvisit : Visit word (placeWords budget clock false rest) (w.tries first word)
      (w.start first word) a u)
    (hp : u.placement? word a = some p)
    (hnext : placeWords budget clock false rest (u.place word p) = (outcome, t)) :
    u.statistics.Balanced rest.length t.statistics outcome := by
  obtain ⟨-, hcounted, -⟩ :=
    (restoring_fades _).visit budget clock hw hvisit hp (Nat.le_refl _)
  have hplace := hrest (u.place word p) hcounted
  rw [hnext] at hplace
  cases outcome <;> exact hplace

/-- While anchors are tried in vain, a word is taken back for each state that is entered, and for
each anchor that is tried or offered on the way. -/
theorem Tried.balanced
    (hrest : Balances rest.length (placeWords budget clock false rest))
    (hw : w.draft.Counted) {tried : List Anchor}
    (htried : Tried word (placeWords budget clock false rest) tried (w.start first word) u)
    (hsub : ∀ b ∈ tried, b ∈ w.tries first word) :
    u.statistics.states + w.statistics.backtracks =
      w.statistics.states + 1 + u.statistics.backtracks ∧
    u.statistics.candidates + w.statistics.backtracks + tried.length =
      w.statistics.candidates + (w.draft.choices first word).length + u.statistics.backtracks := by
  refine htried.along (I := fun tried v =>
    v.statistics.states + w.statistics.backtracks =
      w.statistics.states + 1 + v.statistics.backtracks ∧
    v.statistics.candidates + w.statistics.backtracks + tried.length =
      w.statistics.candidates + (w.draft.choices first word).length + v.statistics.backtracks)
    ⟨rfl, rfl⟩ ?_ ?_
  · intro tried a v hvisit _ hp
    obtain ⟨p, hp'⟩ := (hvisit.mono hsub).exists_placement hw
    rw [hp] at hp'
    cases hp'
  · intro tried a v p t hvisit hv hp hnext
    obtain ⟨hstates, hcandidates⟩ := balanced_place hrest hw (hvisit.mono hsub) hp hnext
    obtain ⟨hstates', hcandidates'⟩ := hv
    rw [List.length_append, List.length_singleton]
    show t.statistics.states + _ = _ + (t.statistics.backtracks + 1) ∧
      t.statistics.candidates + _ + _ = _ + (t.statistics.backtracks + 1)
    omega

/-- **The balance of a search.** However it ends, what a search counts balances. -/
theorem balances_placeWords (budget : Budget) (clock : Clock) (first : Bool)
    (words : List String) : Balances words.length (placeWords budget clock first words) := by
  induction words generalizing first with
  | nil => exact fun w _ => ⟨rfl, Nat.le_refl _⟩
  | cons word rest ih =>
    intro w hw
    have hrest : Balances rest.length (placeWords budget clock false rest) := ih false
    rw [List.length_cons]
    rcases placeWords_end budget clock first word rest w with ⟨-, heq⟩ | ⟨-, hend⟩
    · -- one state has been entered, and nothing else has been counted
      rw [heq]
      have hstates : w.enter.statistics.states = w.statistics.states + 1 := rfl
      have hbacktracks : w.enter.statistics.backtracks = w.statistics.backtracks := rfl
      show w.statistics.Balanced _ w.enter.statistics .abandoned
      exact ⟨by omega, by omega⟩
    · have hlength := (w.tries_perm first word).length_eq
      generalize placeWords budget clock first (word :: rest) w = result at hend
      cases hend with
      | @exhausted u htried =>
        obtain ⟨hstates, hcandidates⟩ := htried.balanced hrest hw fun b hb => hb
        show w.statistics.Balanced _ u.statistics .exhausted
        exact ⟨by omega, by omega⟩
      | @solved tried untried a u t p hanchors htried hp hnext =>
        obtain ⟨hstates, hcandidates⟩ :=
          htried.balanced hrest hw fun b hb => by simp [hanchors, hb]
        obtain ⟨hstates', hcandidates'⟩ :=
          balanced_place hrest hw (.of_append hanchors htried) hp hnext
        rw [hanchors, List.length_append, List.length_cons] at hlength
        show w.statistics.Balanced _ t.statistics .solved
        exact ⟨by omega, by omega⟩
      | @abandoned tried untried a u t p hanchors htried hp hnext =>
        obtain ⟨hstates, -⟩ := htried.balanced hrest hw fun b hb => by simp [hanchors, hb]
        obtain ⟨hstates', hstates''⟩ :=
          balanced_place hrest hw (.of_append hanchors htried) hp hnext
        show w.statistics.Balanced _ t.statistics .abandoned
        exact ⟨by omega, by omega⟩

end Balance

/-! ## Backtracks beyond the budget -/

/-- Holds of a search for a number of words if it exceeds a limit of backtracks, when it begins
within it, by less than one for each word after the first. -/
def Overshoots (limit count : Nat) (next : Walk → Outcome × Walk) : Prop :=
  ∀ v : Walk, v.statistics.backtracks < limit →
    (next v).2.statistics.backtracks < limit + (count - 1)

section Overshoot

variable {budget : Budget} {clock : Clock} {word : String} {rest : List String} {u v : Walk}

/-- With too many backtracks, a search takes no word back and does not find out that there is
nothing to try. -/
theorem backtracks_of_spent {first : Bool} {words : List String} {w : Walk}
    (h : budget.maxBacktracks ≤ w.statistics.backtracks) :
    (placeWords budget clock first words w).1 ≠ .exhausted ∧
      (placeWords budget clock first words w).2.statistics.backtracks =
        w.statistics.backtracks := by
  cases words with
  | nil => exact ⟨Outcome.noConfusion, rfl⟩
  | cons word rest =>
    have hspent : budget.spent clock w.enter.statistics = true := Budget.spent_of_le h
    rw [placeWords_cons, if_pos hspent]
    exact ⟨Outcome.noConfusion, rfl⟩

/-- The search for the words after one that has been placed keeps within what the budget can be
exceeded by, and if it is exhausted, it leaves room for taking that word back. -/
theorem backtracks_place_lt
    (hrest : Overshoots budget.maxBacktracks rest.length (placeWords budget clock false rest))
    {p : Placement} {outcome : Outcome} {t : Walk}
    (hu : u.statistics.backtracks < budget.maxBacktracks + rest.length)
    (hnext : placeWords budget clock false rest (u.place word p) = (outcome, t)) :
    t.statistics.backtracks < budget.maxBacktracks + rest.length ∧
      (outcome = .exhausted →
        t.statistics.backtracks + 1 < budget.maxBacktracks + rest.length) := by
  have hsome := solved_or_length_ne_zero hnext
  rcases Nat.lt_or_ge u.statistics.backtracks budget.maxBacktracks with hless | hmore
  · have hplace := hrest (u.place word p) hless
    rw [hnext] at hplace
    dsimp only at hplace
    refine ⟨by omega, fun hexhausted => ?_⟩
    rw [hexhausted] at hsome
    have hlength := hsome.resolve_left Outcome.noConfusion
    omega
  · -- no state is entered without the budget being found spent
    obtain ⟨hnot, hsame⟩ : _ ∧ _ := backtracks_of_spent (w := u.place word p) hmore
    rw [hnext] at hnot hsame
    have hcount : t.statistics.backtracks = u.statistics.backtracks := hsame
    exact ⟨by omega, fun hexhausted => absurd hexhausted hnot⟩

theorem Tried.backtracks_lt
    (hrest : Overshoots budget.maxBacktracks rest.length (placeWords budget clock false rest))
    {tried : List Anchor} (h : Tried word (placeWords budget clock false rest) tried v u)
    (hv : v.statistics.backtracks < budget.maxBacktracks + rest.length) :
    u.statistics.backtracks < budget.maxBacktracks + rest.length := by
  induction h with
  | nil => exact hv
  | skip _ _ ih => exact ih hv
  | back _ hnext _ ih => exact ih ((backtracks_place_lt hrest hv hnext).2 rfl)

/-- A search overshoots its budget of backtracks by less than one for each word after the first. -/
theorem overshoots_placeWords (budget : Budget) (clock : Clock) (first : Bool)
    (words : List String) :
    Overshoots budget.maxBacktracks words.length (placeWords budget clock first words) := by
  induction words generalizing first with
  | nil => exact fun w h => h
  | cons word rest ih =>
    intro w h
    rw [List.length_cons, Nat.add_sub_cancel]
    have hw : w.statistics.backtracks < budget.maxBacktracks + rest.length :=
      Nat.lt_of_lt_of_le h (Nat.le_add_right ..)
    rcases placeWords_end budget clock first word rest w with ⟨-, heq⟩ | ⟨-, hend⟩
    · rw [heq]
      exact hw
    · have hrest : Overshoots budget.maxBacktracks rest.length
          (placeWords budget clock false rest) := ih false
      generalize placeWords budget clock first (word :: rest) w = result at hend
      cases hend with
      | exhausted htried => exact htried.backtracks_lt hrest hw
      | solved _ htried _ hnext =>
        exact (backtracks_place_lt hrest (htried.backtracks_lt hrest hw) hnext).1
      | abandoned _ htried _ hnext =>
        have hplace := (backtracks_place_lt hrest (htried.backtracks_lt hrest hw) hnext).1
        exact hplace

end Overshoot

/-! ## Depths that are reached -/

section Depth

variable {budget : Budget} {clock : Clock} {first : Bool} {word : String} {rest : List String}
  {w : Walk}

/-- Where there is something to try, it is tried. -/
theorem size_lt_deepest (hsome : ∃ a, a ∈ w.draft.choices first word)
    (h : (placeWords budget clock first (word :: rest) w).1 ≠ .abandoned) :
    w.draft.layout.size <
      (placeWords budget clock first (word :: rest) w).2.statistics.deepest := by
  obtain ⟨a, ha⟩ := hsome
  have hunspent : ¬ budget.spent clock w.enter.statistics = true := by
    intro hspent
    rw [placeWords_cons, if_pos hspent] at h
    exact h rfl
  rw [placeWords_cons, if_neg hunspent]
  cases htries : w.tries first word with
  | nil =>
    rw [← w.mem_tries, htries] at ha
    cases ha
  | cons b others =>
    have hb : b ∈ w.draft.choices first word := by simp [← w.mem_tries, htries]
    obtain ⟨p, hp⟩ : ∃ p, (w.start first word).placement? word b = some p :=
      Draft.exists_placement_of_mem_choices hb
    have hmono := deepest_le_placeWords budget clock false rest
    have hplace := hmono ((w.start first word).place word p)
    rw [Walk.deepest_place] at hplace
    exact Nat.le_trans (Nat.le_trans (Nat.le_max_right ..) hplace)
      (rising_deepest.tryAnchors_cons hmono hp others)

/-- A search that is solved has placed all words at one time. -/
theorem size_add_length_le_deepest {words : List String} (hw : w.draft.Counted)
    (hsize : w.draft.layout.size ≤ w.statistics.deepest)
    (h : (placeWords budget clock first words w).1 = .solved) :
    w.draft.layout.size + words.length ≤
      (placeWords budget clock first words w).2.statistics.deepest := by
  induction words generalizing first w with
  | nil => exact hsize
  | cons word rest ih =>
    rcases placeWords_end budget clock first word rest w with ⟨-, heq⟩ | ⟨-, hend⟩
    · rw [heq] at h
      cases h
    · generalize placeWords budget clock first (word :: rest) w = result at h hend
      cases hend with
      | exhausted => cases h
      | abandoned => cases h
      | @solved tried untried a u t p hanchors htried hp hnext =>
        obtain ⟨hfades, hcounted, -⟩ := (restoring_fades _).visit budget clock hw
          (.of_append hanchors htried) hp (Nat.le_refl _)
        have hdeep : (u.place word p).draft.layout.size ≤
            (u.place word p).statistics.deepest := by
          rw [Walk.draft_place, Draft.layout_commit, Layout.size_push, Walk.deepest_place]
          exact Nat.le_max_right ..
        have hplace := ih hcounted hdeep (congrArg Prod.fst hnext)
        rw [hnext, Walk.draft_place, Draft.layout_commit, Layout.size_push, hfades.layout] at hplace
        rw [List.length_cons]
        dsimp only at hplace ⊢
        omega

end Depth

namespace Placer

section Fresh

variable {words : List String} {side : Nat} {budget : Budget} {clock : Clock} {stream : Keystream}
  (hwords : checkWords words side = .ok ())

include hwords

/-- A first run never places more words than there are, and unless it is solved, one is missing. -/
theorem deepest_run_le_most (budget : Budget) (clock : Clock) (stream : Keystream) :
    ((onSide words side budget).run clock stream).2.1.statistics.deepest ≤
      ((onSide words side budget).run clock stream).1.most words.length := by
  have hmost : ((onSide words side budget).run clock stream).2.1.statistics.deepest ≤
      ((onSide words side budget).walk stream).reach
        (((onSide words side budget).run clock stream).1.most (orderWords words).length) :=
    staysInReach_placeWords budget clock true (orderWords words) _
      (Draft.sound_blank side).counted
  rw [(ordered_of_checkWords hwords).1] at hmost
  exact Nat.le_trans hmost (Nat.max_le.mpr ⟨Nat.zero_le _, Nat.le_of_eq (Nat.zero_add _)⟩)

/-- A first run that is exhausted has placed some words, but never all of them. -/
theorem deepest_of_exhausted
    (h : ((onSide words side budget).run clock stream).1 = .exhausted) :
    1 ≤ ((onSide words side budget).run clock stream).2.1.statistics.deepest ∧
      ((onSide words side budget).run clock stream).2.1.statistics.deepest < words.length := by
  have hlength := (ordered_of_checkWords hwords).1
  have hle := (ordered_of_checkWords hwords).2
  have hpos := List.length_pos_iff.mpr (checkWords_eq_ok_iff.mp hwords).1
  have hmost := deepest_run_le_most hwords budget clock stream
  rw [h, show Outcome.exhausted.most words.length = words.length - 1 from rfl] at hmost
  refine ⟨?_, by omega⟩
  have hsearch : (placeWords budget clock true (orderWords words)
      ((onSide words side budget).walk stream)).1 = .exhausted := h
  show 1 ≤ (placeWords budget clock true (orderWords words)
    ((onSide words side budget).walk stream)).2.statistics.deepest
  cases hordered : orderWords words with
  | nil =>
    rw [hordered] at hlength
    exact absurd hlength (Nat.ne_of_lt hpos)
  | cons word rest =>
    rw [hordered] at hsearch hle
    have hsome : ∃ a, a ∈ ((onSide words side budget).walk stream).draft.choices true word :=
      Draft.exists_mem_choices_blank (hle word (List.mem_cons_self ..))
    refine size_lt_deepest hsome ?_
    rw [hsearch]
    exact Outcome.noConfusion

end Fresh

/-- **The counters balance.** A first run of accepted words, with a budget of at least one
backtrack, that is exhausted has taken back each candidate, has entered one state more than that,
and has placed some of the words, but never all; one that is solved has entered a state more for
each word, with candidates for all of them, and has placed all; one that is abandoned is in between.
The budget is exceeded by less than one backtrack for each word after the first; and if a run is
abandoned whose time is not limited, it is spent. -/
theorem counters_balance {words : List String} {side : Nat} {budget : Budget} {p : Placer}
    (h : ofWordsOnSide words side budget = .ok p) (hone : 1 ≤ budget.maxBacktracks) (clock : Clock)
    (stream : Keystream) :
    let r := p.run clock stream
    let s := r.2.1.statistics
    let n := words.length
    (r.1 = .exhausted → s.candidates = s.backtracks ∧ s.states = s.backtracks + 1 ∧
      1 ≤ s.deepest ∧ s.deepest < n) ∧
    (r.1 = .solved → s.states = s.backtracks + n ∧ s.backtracks + n ≤ s.candidates ∧
      s.deepest = n) ∧
    (r.1 = .abandoned → s.backtracks + 1 ≤ s.states ∧ s.states ≤ s.backtracks + n ∧
      s.deepest < n) ∧
    s.backtracks ≤ budget.maxBacktracks + n - 2 ∧
    (r.1 = .abandoned → budget.timeLimit = none → budget.maxBacktracks ≤ s.backtracks) := by
  intro r s n
  obtain ⟨hwords, rfl⟩ := ofWordsOnSide_eq_ok_iff.mp h
  have hlength : n = (orderWords words).length := (ordered_of_checkWords hwords).1.symm
  have hpos : 0 < n := List.length_pos_iff.mpr (checkWords_eq_ok_iff.mp hwords).1
  let w := (onSide words side budget).walk stream
  have hw : w.draft.Counted := (Draft.sound_blank side).counted
  have hbalance : w.statistics.Balanced n
      (placeWords budget clock true (orderWords words) w).2.statistics r.1 := by
    rw [hlength]
    exact balances_placeWords budget clock true (orderWords words) w hw
  have hdeep : s.deepest ≤ r.1.most n := deepest_run_le_most hwords budget clock stream
  have hbound : s.backtracks < budget.maxBacktracks + (n - 1) := by
    rw [hlength]
    exact overshoots_placeWords budget clock true (orderWords words) w hone
  refine ⟨fun hend => ?_, fun hend => ?_, fun hend => ?_, by omega,
    fun hend htime => maxBacktracks_le_of_abandoned htime hend⟩
  · rw [hend] at hbalance
    obtain ⟨hstates, hcandidates⟩ :
      s.states + 0 = 0 + s.backtracks + 1 ∧ s.candidates + 0 = 0 + s.backtracks := hbalance
    exact ⟨by omega, by omega, deepest_of_exhausted hwords hend⟩
  · rw [hend] at hbalance hdeep
    obtain ⟨hstates, hcandidates⟩ :
      s.states + 0 = 0 + s.backtracks + n ∧ 0 + s.backtracks + n ≤ s.candidates + 0 := hbalance
    have hmost : s.deepest ≤ n := hdeep
    have hall : 0 + (orderWords words).length ≤ s.deepest :=
      size_add_length_le_deepest hw (Nat.le_refl 0) hend
    exact ⟨by omega, by omega, by omega⟩
  · rw [hend] at hbalance hdeep
    obtain ⟨hstates, hstates'⟩ :
      0 + s.backtracks + 1 ≤ s.states + 0 ∧ s.states + 0 ≤ 0 + s.backtracks + n := hbalance
    have hmost : s.deepest ≤ n - 1 := hdeep
    exact ⟨by omega, by omega, by omega⟩

/-- Words that have no letter in common: each of the two anchors for the first one is tried. -/
theorem counters_balance_disjoint_words :
    let s := ((onSide ["AB", "CD"] 4 ⟨10, none⟩).run .still (.ofSeed 1)).2.1.statistics
    s.candidates = s.backtracks ∧ s.states = s.backtracks + 1 ∧ s.deepest = 1 := by
  have haccepted : ofWordsOnSide ["AB", "CD"] 4 ⟨10, none⟩ =
      .ok (onSide ["AB", "CD"] 4 ⟨10, none⟩) := ofWordsOnSide_eq_ok_iff.mpr ⟨by cbv, rfl⟩
  obtain ⟨hexhausted, -⟩ := counters_balance haccepted (by decide) .still (.ofSeed 1)
  obtain ⟨hcandidates, hstates, hsome, hnot⟩ := hexhausted (by cbv)
  exact ⟨hcandidates, hstates, Nat.le_antisymm (Nat.le_of_lt_succ hnot) hsome⟩

end Placer

end Crossword
