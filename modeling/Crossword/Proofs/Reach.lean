import Crossword.Proofs.SearchSteps

/-!
# What a search reaches

How far a search can get, and what it finds there. It never places more words than it is given, and
all of them only if it is solved (`staysInReach_placeWords`). So if all of them can be counted, no
count is ever full, and on a sound draft every anchor is tried on the very draft on which the search
for its word began (`Visit.exact`).
-/

namespace Crossword

/-! ## The most words placed -/

/-- The most of a number of words that a search which ends so can have placed at one time: unless it
is solved, one is missing. -/
def Outcome.most (o : Outcome) (count : Nat) : Nat := if o = .solved then count else count - 1

theorem Outcome.most_le (o : Outcome) (count : Nat) : o.most count ≤ count := by
  unfold most
  split
  · exact Nat.le_refl count
  · exact Nat.sub_le count 1

/-- If a search for the words after one that was placed ends so, then the search for all of them can
have placed one more. -/
theorem Outcome.most_succ {o : Outcome} {count : Nat} (h : o = .solved ∨ count ≠ 0) :
    o.most (count + 1) = o.most count + 1 ∧ count ≤ o.most (count + 1) := by
  unfold most
  split <;> grind

section Deepest

variable {budget : Budget} {clock : Clock} {first : Bool} {word : String} {rest : List String}
  {w u : Walk}

/-- The most words that a search for a number of words can have placed at one time. -/
def Walk.reach (w : Walk) (count : Nat) : Nat :=
  max w.statistics.deepest (w.draft.layout.size + count)

/-- Holds of a search for a number of words if it never places more words at one time than it can,
ending as it does. -/
def StaysInReach (count : Nat) (next : Walk → Outcome × Walk) : Prop :=
  ∀ v : Walk, v.draft.Counted →
    (next v).2.statistics.deepest ≤ v.reach ((next v).1.most count)

theorem Walk.reach_mono {m n : Nat} (h : m ≤ n) : w.reach m ≤ w.reach n := by
  unfold reach
  omega

/-- A search for no words is solved. -/
theorem solved_or_length_ne_zero {v t : Walk} {outcome : Outcome}
    (h : placeWords budget clock false rest v = (outcome, t)) :
    outcome = .solved ∨ rest.length ≠ 0 := by
  cases rest with
  | nil => exact Or.inl (congrArg Prod.fst h).symm
  | cons word rest => exact Or.inr (Nat.succ_ne_zero _)

/-- A search for the words after one that has been placed stays in reach. -/
theorem deepest_place_le
    (hrest : StaysInReach rest.length (placeWords budget clock false rest))
    (hw : w.draft.Counted) {a : Anchor} {p : Placement} {outcome : Outcome} {t : Walk}
    (hvisit : Visit word (placeWords budget clock false rest) (w.tries first word)
      (w.start first word) a u)
    (hp : u.placement? word a = some p) (hu : u.statistics.deepest ≤ w.reach rest.length)
    (hnext : placeWords budget clock false rest (u.place word p) = (outcome, t)) :
    t.statistics.deepest ≤ w.reach (outcome.most (rest.length + 1)) := by
  obtain ⟨hfades, hcounted, -⟩ :=
    (restoring_fades _).visit budget clock hw hvisit hp (Nat.le_refl _)
  have hplace := hrest (u.place word p) hcounted
  obtain ⟨hmost, hle⟩ := Outcome.most_succ (solved_or_length_ne_zero hnext)
  rw [hnext, Walk.reach, Walk.deepest_place, Walk.draft_place, Draft.layout_commit,
    Layout.size_push, hfades.layout] at hplace
  dsimp only at hplace
  rw [Walk.reach] at hu ⊢
  omega

/-- While anchors are tried in vain, one word is always missing. -/
theorem Tried.deepest_le_reach
    (hrest : StaysInReach rest.length (placeWords budget clock false rest))
    (hw : w.draft.Counted) {tried : List Anchor}
    (htried : Tried word (placeWords budget clock false rest) tried (w.start first word) u)
    (hsub : ∀ b ∈ tried, b ∈ w.tries first word) :
    u.statistics.deepest ≤ w.reach rest.length := by
  refine htried.along (I := fun _ v => v.statistics.deepest ≤ w.reach rest.length) ?_ ?_ ?_
  · exact Nat.le_max_left ..
  · intro _ _ v _ hv _
    exact hv
  · intro _ a v p t hvisit hv hp hnext
    exact deepest_place_le hrest hw (hvisit.mono hsub) hp hv hnext

/-- A search never places more words at one time than there are on the draft and in its list, and
unless it is solved, one of them is missing. -/
theorem staysInReach_placeWords (budget : Budget) (clock : Clock) (first : Bool)
    (words : List String) : StaysInReach words.length (placeWords budget clock first words) := by
  induction words generalizing first with
  | nil => exact fun w _ => Nat.le_max_left ..
  | cons word rest ih =>
    intro w hw
    have hrest : StaysInReach rest.length (placeWords budget clock false rest) := ih false
    rcases placeWords_end budget clock first word rest w with ⟨-, heq⟩ | ⟨-, hend⟩
    · rw [heq]
      exact Nat.le_max_left ..
    · generalize placeWords budget clock first (word :: rest) w = result at hend
      cases hend with
      | exhausted htried => exact htried.deepest_le_reach hrest hw fun b hb => hb
      | @solved tried untried a u v p hanchors htried hp hnext =>
        have hu := htried.deepest_le_reach hrest hw fun b hb => by simp [hanchors, hb]
        exact deepest_place_le hrest hw (.of_append hanchors htried) hp hu hnext
      | @abandoned tried untried a u v p hanchors htried hp hnext =>
        have hu := htried.deepest_le_reach hrest hw fun b hb => by simp [hanchors, hb]
        have hplace := deepest_place_le hrest hw (.of_append hanchors htried) hp hu hnext
        exact hplace

theorem deepest_placeWords_le (budget : Budget) (clock : Clock) {first : Bool}
    {words : List String} {w : Walk} (hw : w.draft.Counted) :
    (placeWords budget clock first words w).2.statistics.deepest ≤ w.reach words.length :=
  Nat.le_trans (staysInReach_placeWords budget clock first words w hw)
    (w.reach_mono (Outcome.most_le _ _))

/-- Where an anchor is tried, the search is in reach. -/
theorem Visit.deepest_le_reach (hw : w.draft.Counted) {a : Anchor}
    (h : Visit word (placeWords budget clock false rest) (w.tries first word) (w.start first word)
      a u) : u.statistics.deepest ≤ w.reach (rest.length + 1) := by
  obtain ⟨tried, hsub, htried⟩ := h.before
  have hu := htried.deepest_le_reach (staysInReach_placeWords budget clock false rest) hw hsub
  exact Nat.le_trans hu (w.reach_mono (Nat.le_succ _))

end Deepest

/-! ## Exact returns -/

section Exact

variable {budget : Budget} {clock : Clock} {first : Bool} {word : String} {rest : List String}
  {w u : Walk} {a : Anchor}

/-- Where an anchor is tried on a sound draft, the draft is back where the search for its word
began. -/
theorem Visit.draft_eq (hw : w.draft.Sound) (hroom : w.reach (rest.length + 1) ≤ maxOwners)
    (h : Visit word (placeWords budget clock false rest) (w.tries first word) (w.start first word)
      a u) : u.draft = w.draft :=
  restoring_sound.returns budget clock hw h (Nat.le_trans (h.deepest_le_reach hw.counted) hroom)

/-- The word can be placed there, and the search for the words after it stays in reach. -/
theorem Visit.exact (hw : w.draft.Sound) (hroom : w.reach (rest.length + 1) ≤ maxOwners)
    {p : Placement}
    (h : Visit word (placeWords budget clock false rest) (w.tries first word) (w.start first word)
      a u)
    (hp : u.placement? word a = some p) : u.draft = w.draft ∧ (u.place word p).draft.Sound ∧
      (u.place word p).reach rest.length ≤ maxOwners := by
  have hdeep := h.deepest_le_reach hw.counted
  have hu : u.draft = w.draft := h.draft_eq hw hroom
  have hplace : (u.place word p).reach rest.length ≤ w.reach (rest.length + 1) := by
    rw [Walk.reach, Walk.deepest_place, Walk.draft_place, Draft.layout_commit, Layout.size_push, hu]
    rw [Walk.reach] at hdeep ⊢
    omega
  have hle := Nat.le_trans hplace hroom
  obtain ⟨-, hsound, -⟩ :=
    restoring_sound.visit budget clock hw h hp (Nat.le_trans (Nat.le_max_left ..) hle)
  exact ⟨hu, hsound, hle⟩

end Exact

end Crossword
