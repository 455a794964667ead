import Crossword.Proofs.Reach
import Crossword.Proofs.Totals

/-!
# The effort of a search

The anchors for a word are tried in random order, and still a search that is exhausted counts the
same whatever the order: it goes through all courses that place some of its words, and
`Draft.effort` says what that comes to.

Main result: `effort_placeWords`. A search that is exhausted has added exactly the effort to its
counters, and one that is abandoned is on the way there.
-/

namespace Crossword

namespace Draft

/-- What is counted when a word is placed at an anchor and taken back for want of room, with all
that the search for the words after it, `rest`, has counted in between. If there are none, the word
is not taken back. -/
def effortAt (next : Draft → Statistics) (d : Draft) (word : String) (rest : List String)
    (a : Anchor) : Statistics :=
  if rest = [] then {}
  else
    match Placement.ofAnchor? a word.length d.grid.rows d.grid.cols with
    | none => {}
    | some p =>
      ({ backtracks := 1, deepest := d.layout.size + 1 } : Statistics).absorb
        (next (d.commit word p))

/-- What a search for some words counts if it finds room for some, but never for all of them. -/
def effort : (first : Bool) → List String → Draft → Statistics
  | _, [], _ => {}
  | first, word :: rest, d =>
    ({ states := 1, candidates := (d.choices first word).length } : Statistics).absorb
      (.total ((d.choices first word).map (d.effortAt (effort false rest) word rest)))

variable {next : Draft → Statistics} {d : Draft} {word : String} {rest : List String} {a : Anchor}

theorem effortAt_of_placement {p : Placement}
    (hp : Placement.ofAnchor? a word.length d.grid.rows d.grid.cols = some p) (hrest : rest ≠ []) :
    d.effortAt next word rest a =
      ({ backtracks := 1, deepest := d.layout.size + 1 } : Statistics).absorb
        (next (d.commit word p)) := by
  unfold effortAt
  rw [if_neg hrest, hp]

theorem effortAt_of_none
    (hp : Placement.ofAnchor? a word.length d.grid.rows d.grid.cols = none) :
    d.effortAt next word rest a = {} := by
  unfold effortAt
  rw [hp]
  exact ite_self _

end Draft

/-! ## What the steps count -/

/-- A word that is taken back was counted when it was placed and when it was taken back. -/
theorem Statistics.placed_and_taken_back (size : Nat) :
    ({ backtracks := 1, deepest := size } : Statistics) =
      ({ deepest := size } : Statistics).absorb { backtracks := 1 } := by
  show _ = Statistics.mk ..
  simp

/-! ## What a search counts -/

/-- Holds of a search for the words after the first if it has counted the effort for them whenever
it is exhausted. -/
def AddsEffort (rest : List String) (next : Walk → Outcome × Walk) : Prop :=
  ∀ v : Walk, v.draft.Sound → v.reach rest.length ≤ maxOwners → (next v).1 = .exhausted →
    (next v).2.statistics = v.statistics.absorb (v.draft.effort false rest)

section Search

variable {budget : Budget} {clock : Clock} {first : Bool} {word : String} {rest : List String}
  {w u : Walk}

/-- Each anchor that is tried in vain adds its effort. -/
theorem Tried.statistics_eq
    (hrest : AddsEffort rest (placeWords budget clock false rest))
    (hw : w.draft.Sound) (hroom : w.reach (rest.length + 1) ≤ maxOwners) {tried : List Anchor}
    (htried : Tried word (placeWords budget clock false rest) tried (w.start first word) u)
    (hsub : ∀ b ∈ tried, b ∈ w.tries first word) :
    u.statistics = (w.start first word).statistics.absorb
      (.total (tried.map (w.draft.effortAt (Draft.effort false rest) word rest))) := by
  refine htried.along (I := fun tried v => v.statistics = (w.start first word).statistics.absorb
    (.total (tried.map (w.draft.effortAt (Draft.effort false rest) word rest)))) ?_ ?_ ?_
  · exact (Statistics.absorb_empty _).symm
  · intro tried a v hvisit hv hp
    rw [Walk.placement?, (hvisit.mono hsub).draft_eq hw hroom] at hp
    rw [hv, List.map_append, Statistics.total_append, List.map_singleton,
      Statistics.total_singleton, Draft.effortAt_of_none hp, Statistics.absorb_empty]
  · intro tried a v p t hvisit hv hp hnext
    obtain ⟨hdraft, hsound, hreach⟩ := (hvisit.mono hsub).exact hw hroom hp
    -- where no word is left, the search after the word is solved
    have hne : rest ≠ [] := by
      rintro rfl
      cases hnext
    have hcount := hrest (v.place word p) hsound hreach (congrArg Prod.fst hnext)
    rw [hnext, Walk.statistics_place, Walk.draft_place, hdraft, hv] at hcount
    rw [Walk.placement?, hdraft] at hp
    rw [Walk.statistics_countBacktrack, List.map_append, Statistics.total_append,
      List.map_singleton, Statistics.total_singleton, Draft.effortAt_of_placement hp hne,
      Statistics.placed_and_taken_back, show t.takeBack.statistics = t.statistics from rfl, hcount]
    ac_rfl

/-- The effort for a word is that for the anchors in the order in which they are tried. -/
theorem Walk.absorb_effort (w : Walk) (first : Bool) (word : String) (rest : List String) :
    w.statistics.absorb (w.draft.effort first (word :: rest)) =
      (w.start first word).statistics.absorb (.total
        ((w.tries first word).map (w.draft.effortAt (Draft.effort false rest) word rest))) := by
  rw [Draft.effort, ← Statistics.absorb_assoc, ← Walk.statistics_start,
    Statistics.total_perm ((w.tries_perm first word).map _)]

/-- The effort for a word, told from an anchor at which it is placed: what has been counted by then,
the effort for the words after it, the word taken back as in vain, and the anchors that are left.
-/
theorem Tried.absorb_effort
    (hrest : AddsEffort rest (placeWords budget clock false rest))
    (hw : w.draft.Sound) (hroom : w.reach (rest.length + 1) ≤ maxOwners) (hne : rest ≠ [])
    {tried untried : List Anchor} {a : Anchor} {p : Placement}
    (hanchors : w.tries first word = tried ++ a :: untried)
    (htried : Tried word (placeWords budget clock false rest) tried (w.start first word) u)
    (hp : u.placement? word a = some p) :
    w.statistics.absorb (w.draft.effort first (word :: rest)) =
      (((u.place word p).statistics.absorb ((u.place word p).draft.effort false rest)).absorb
        { backtracks := 1 }).absorb (.total (untried.map
          (w.draft.effortAt (Draft.effort false rest) word rest))) := by
  have hu := htried.statistics_eq hrest hw hroom fun b hb => by simp [hanchors, hb]
  obtain ⟨hdraft, -, -⟩ := (Visit.of_append hanchors htried).exact hw hroom hp
  rw [Walk.placement?, hdraft] at hp
  rw [Walk.absorb_effort, hanchors, List.map_append, List.map_cons, Statistics.total_append,
    Statistics.total_cons, Draft.effortAt_of_placement hp hne, Statistics.placed_and_taken_back,
    Walk.statistics_place, Walk.draft_place, hdraft, hu]
  ac_rfl

/-- **What a search counts.** A search on a sound draft that is exhausted has added exactly the
effort for its words to the counters. One that is abandoned is on the way there. -/
theorem effort_placeWords (budget : Budget) (clock : Clock) {first : Bool} {words : List String}
    {w : Walk} (hw : w.draft.Sound) (hroom : w.reach words.length ≤ maxOwners) :
    ((placeWords budget clock first words w).1 = .exhausted →
      (placeWords budget clock first words w).2.statistics =
        w.statistics.absorb (w.draft.effort first words)) ∧
    ((placeWords budget clock first words w).1 = .abandoned →
      (placeWords budget clock first words w).2.statistics.OnTheWay
        (w.statistics.absorb (w.draft.effort first words))) := by
  induction words generalizing first w with
  | nil => exact ⟨Outcome.noConfusion, Outcome.noConfusion⟩
  | cons word rest ih =>
    have hrest : AddsEffort rest (placeWords budget clock false rest) :=
      fun v hv hreach => (ih hv hreach).1
    rcases placeWords_end budget clock first word rest w with ⟨-, heq⟩ | ⟨-, hend⟩
    · -- abandoned at once: the state has been counted, and nothing else
      rw [heq, Walk.absorb_effort, Walk.statistics_start_of_enter, Statistics.absorb_assoc]
      exact ⟨Outcome.noConfusion, fun _ => ⟨_, rfl⟩⟩
    · generalize placeWords budget clock first (word :: rest) w = result at hend
      cases hend with
      | exhausted htried =>
        rw [Walk.absorb_effort]
        exact ⟨fun _ => htried.statistics_eq hrest hw hroom fun b hb => hb, Outcome.noConfusion⟩
      | solved => exact ⟨Outcome.noConfusion, Outcome.noConfusion⟩
      | @abandoned tried untried a u v p hanchors htried hp hnext =>
        refine ⟨Outcome.noConfusion, fun _ => ?_⟩
        have hne : rest ≠ [] := by
          rintro rfl
          cases hnext
        obtain ⟨-, hsound, hreach⟩ := (Visit.of_append hanchors htried).exact hw hroom hp
        -- what is missing beyond the search after the word: the word taken back as in vain, and the
        -- anchors that are left
        have hway := (ih hsound hreach).2 (congrArg Prod.fst hnext)
        rw [hnext] at hway
        rw [htried.absorb_effort hrest hw hroom hne hanchors hp, Statistics.absorb_assoc]
        exact hway.trans ⟨_, rfl⟩

/-- A search whose time is not limited is abandoned for its backtracks. -/
theorem maxBacktracks_le_of_abandoned {budget : Budget} {clock : Clock} {first : Bool}
    {words : List String} {w : Walk} (htime : budget.timeLimit = none)
    (h : (placeWords budget clock first words w).1 = .abandoned) :
    budget.maxBacktracks ≤ (placeWords budget clock first words w).2.statistics.backtracks := by
  induction words generalizing first w with
  | nil => cases h
  | cons word rest ih =>
    rcases placeWords_end budget clock first word rest w with ⟨hspent, heq⟩ | ⟨-, hend⟩
    · rw [heq]
      exact (Budget.spent_untimed_iff htime).mp hspent
    · generalize placeWords budget clock first (word :: rest) w = result at h hend
      cases hend with
      | exhausted => cases h
      | solved => cases h
      | abandoned _ _ _ hnext =>
        have hmax := ih (congrArg Prod.fst hnext)
        rw [hnext] at hmax
        exact hmax

end Search

end Crossword
