import Crossword.Proofs.Soundness

/-!
# The steps of the search

What the search can do, said once. `Tried` holds of the walks before and after a list of anchors was
tried in vain; `TryEnd` lists the three ways in which `tryAnchors` ends, and `placeWords_end` those
in which `placeWords` does. Every fact about whole searches is derived from these by induction on
the words, and within one word by induction on `Tried`.

`Restoring P R` is the first such fact: if taking back a word that was just placed leads back to
where it was placed (in the sense of `R`), a search that fails leads back to where it began
(`Restoring.placeWords`).
-/

namespace Crossword

namespace Walk

variable (w : Walk) (first : Bool) (word : String)

/-- The anchors for a word in the order in which they are tried. -/
def tries : List Anchor := (w.enter.offer (w.draft.choices first word)).1

/-- The walk once the anchors for a word have been found. -/
def start : Walk := (w.enter.offer (w.draft.choices first word)).2

theorem tries_perm : (w.tries first word).Perm (w.draft.choices first word) := shuffle_perm ..

theorem mem_tries {a : Anchor} : a ∈ w.tries first word ↔ a ∈ w.draft.choices first word :=
  (w.tries_perm first word).mem_iff

@[simp] theorem draft_place (p : Placement) : (w.place word p).draft = w.draft.commit word p := rfl

@[simp] theorem deepest_place (p : Placement) : (w.place word p).statistics.deepest =
    max w.statistics.deepest (w.draft.layout.size + 1) := by
  rw [← Layout.size_push w.draft.layout word p, ← Draft.layout_commit]
  rfl

@[simp] theorem backtracks_place (p : Placement) :
    (w.place word p).statistics.backtracks = w.statistics.backtracks := rfl

/-! ## What the steps count -/

theorem statistics_enter : w.enter.statistics = w.statistics.absorb { states := 1 } := by
  show _ = Statistics.mk ..
  simp [enter]

/-- The anchors on offer are counted once the state has been entered. -/
theorem statistics_start_of_enter : (w.start first word).statistics = w.enter.statistics.absorb
    { candidates := (w.draft.choices first word).length } := by
  show _ = Statistics.mk ..
  simp [start, offer, enter]

theorem statistics_start : (w.start first word).statistics = w.statistics.absorb
    { states := 1, candidates := (w.draft.choices first word).length } := by
  show _ = Statistics.mk ..
  simp [start, offer, enter]

theorem statistics_place (p : Placement) : (w.place word p).statistics =
    w.statistics.absorb { deepest := w.draft.layout.size + 1 } := by
  show _ = Statistics.mk ..
  simp [place]

theorem statistics_countBacktrack :
    w.countBacktrack.statistics = w.statistics.absorb { backtracks := 1 } := by
  show _ = Statistics.mk ..
  simp [countBacktrack]

end Walk

/-- Holds of the walks before and after some anchors were tried for a word, each of them in vain:
the search for the words after it, `next`, was exhausted. -/
inductive Tried (word : String) (next : Walk → Outcome × Walk) :
    List Anchor → Walk → Walk → Prop
  | nil (w : Walk) : Tried word next [] w w
  | skip {a : Anchor} {rest : List Anchor} {v w : Walk} (hp : v.placement? word a = none)
      (hrest : Tried word next rest v w) : Tried word next (a :: rest) v w
  | back {a : Anchor} {rest : List Anchor} {v u w : Walk} {p : Placement}
      (hp : v.placement? word a = some p) (hnext : next (v.place word p) = (.exhausted, u))
      (hrest : Tried word next rest u.takeBack.countBacktrack w) :
      Tried word next (a :: rest) v w

/-- The ways in which trying some anchors ends: all of them in vain, or some in vain and then one
that settles the matter. -/
inductive TryEnd (word : String) (next : Walk → Outcome × Walk) (anchors : List Anchor)
    (v : Walk) : Outcome × Walk → Prop
  | exhausted {w : Walk} (htried : Tried word next anchors v w) :
      TryEnd word next anchors v (.exhausted, w)
  | solved {tried untried : List Anchor} {a : Anchor} {u w : Walk} {p : Placement}
      (hanchors : anchors = tried ++ a :: untried) (htried : Tried word next tried v u)
      (hp : u.placement? word a = some p) (hnext : next (u.place word p) = (.solved, w)) :
      TryEnd word next anchors v (.solved, w)
  | abandoned {tried untried : List Anchor} {a : Anchor} {u w : Walk} {p : Placement}
      (hanchors : anchors = tried ++ a :: untried) (htried : Tried word next tried v u)
      (hp : u.placement? word a = some p) (hnext : next (u.place word p) = (.abandoned, w)) :
      TryEnd word next anchors v (.abandoned, w.takeBack)

section TryAnchors

variable {word : String} {next : Walk → Outcome × Walk}

/-- An anchor tried in vain before the others does not change how they end. -/
private theorem TryEnd.cons {a : Anchor} {rest : List Anchor} {v v' : Walk}
    {result : Outcome × Walk} (h : TryEnd word next rest v' result)
    (hstep : ∀ {tried : List Anchor} {u : Walk},
      Tried word next tried v' u → Tried word next (a :: tried) v u) :
    TryEnd word next (a :: rest) v result := by
  cases h with
  | exhausted htried => exact .exhausted (hstep htried)
  | solved hanchors htried hp hnext =>
    exact .solved (congrArg (a :: ·) hanchors) (hstep htried) hp hnext
  | abandoned hanchors htried hp hnext =>
    exact .abandoned (congrArg (a :: ·) hanchors) (hstep htried) hp hnext

/-- `tryAnchors` ends in one of the ways listed. -/
theorem tryAnchors_end (anchors : List Anchor) (v : Walk) :
    TryEnd word next anchors v (tryAnchors word next anchors v) := by
  induction anchors generalizing v with
  | nil => exact .exhausted (.nil v)
  | cons a rest ih =>
    cases hp : v.placement? word a with
    | none =>
      simp only [tryAnchors_cons, hp]
      exact (ih v).cons fun h => .skip hp h
    | some p =>
      cases hnext : next (v.place word p) with
      | mk outcome u =>
        simp only [tryAnchors_cons, hp, hnext]
        cases outcome with
        | solved => exact .solved (List.nil_append _).symm (.nil v) hp hnext
        | abandoned => exact .abandoned (List.nil_append _).symm (.nil v) hp hnext
        | exhausted => exact (ih _).cons fun h => .back hp hnext h

/-- Holds if the anchor `a` is tried at the walk `u`, in the course of trying some anchors from the
walk `v` on: others of them have been tried before, all in vain. -/
structure Visit (word : String) (next : Walk → Outcome × Walk) (anchors : List Anchor) (v : Walk)
    (a : Anchor) (u : Walk) : Prop where
  mem : a ∈ anchors
  before : ∃ tried, (∀ b ∈ tried, b ∈ anchors) ∧ Tried word next tried v u

namespace Visit

variable {anchors : List Anchor} {a : Anchor} {v u : Walk}

/-- The first anchor is tried at once. -/
theorem head (a : Anchor) (rest : List Anchor) (v : Walk) : Visit word next (a :: rest) v a v :=
  ⟨List.mem_cons_self .., [], by simp, .nil v⟩

/-- What is tried among later anchors is tried after the first one. -/
theorem later {b : Anchor} {v' : Walk} (h : Visit word next anchors v' a u)
    (hstep : ∀ {tried : List Anchor} {u : Walk},
      Tried word next tried v' u → Tried word next (b :: tried) v u) :
    Visit word next (b :: anchors) v a u := by
  obtain ⟨tried, hsub, htried⟩ := h.before
  refine ⟨List.mem_cons_of_mem _ h.mem, b :: tried, fun c hc => ?_, hstep htried⟩
  rcases List.mem_cons.mp hc with rfl | hc
  · exact List.mem_cons_self ..
  · exact List.mem_cons_of_mem _ (hsub c hc)

/-- The anchor after those that were tried in vain is tried next. -/
theorem of_append {tried untried : List Anchor} (hanchors : anchors = tried ++ a :: untried)
    (h : Tried word next tried v u) : Visit word next anchors v a u := by
  subst hanchors
  exact ⟨List.mem_append_right _ (List.mem_cons_self ..), tried,
    fun b hb => List.mem_append_left _ hb, h⟩

/-- What is tried among some anchors is tried among more. -/
theorem mono {others : List Anchor} (h : Visit word next others v a u)
    (hsub : ∀ b ∈ others, b ∈ anchors) : Visit word next anchors v a u := by
  obtain ⟨tried, htried, hbefore⟩ := h.before
  exact ⟨hsub a h.mem, tried, fun b hb => hsub b (htried b hb), hbefore⟩

end Visit

/-- What holds before any anchor is tried, and is kept by each one that is tried in vain, holds once
all of them were. -/
theorem Tried.along {I : List Anchor → Walk → Prop} {anchors : List Anchor} {v w : Walk}
    (h : Tried word next anchors v w) (hnil : I [] v)
    (hskip : ∀ tried a u, Visit word next anchors v a u → I tried u →
      u.placement? word a = none → I (tried ++ [a]) u)
    (hback : ∀ tried a u p t, Visit word next anchors v a u → I tried u →
      u.placement? word a = some p → next (u.place word p) = (.exhausted, t) →
      I (tried ++ [a]) t.takeBack.countBacktrack) : I anchors w := by
  induction h generalizing I with
  | nil => exact hnil
  | @skip b rest v w hp hrest ih =>
    refine ih (I := fun tried => I (b :: tried)) (hskip [] b v (.head b rest v) hnil hp) ?_ ?_
    · intro tried a u hvisit
      exact hskip (b :: tried) a u (hvisit.later fun h => .skip hp h)
    · intro tried a u p t hvisit
      exact hback (b :: tried) a u p t (hvisit.later fun h => .skip hp h)
  | @back b rest v u' w q hp hnext hrest ih =>
    refine ih (I := fun tried => I (b :: tried))
      (hback [] b v q u' (.head b rest v) hnil hp hnext) ?_ ?_
    · intro tried a u hvisit
      exact hskip (b :: tried) a u (hvisit.later fun h => .back hp hnext h)
    · intro tried a u p t hvisit
      exact hback (b :: tried) a u p t (hvisit.later fun h => .back hp hnext h)

/-- Each anchor of a list that was tried in vain was tried at some walk on the way. -/
theorem Tried.visit {anchors : List Anchor} {v w : Walk} (h : Tried word next anchors v w)
    {a : Anchor} (ha : a ∈ anchors) : ∃ u, Visit word next anchors v a u ∧
      ∀ p, u.placement? word a = some p → (next (u.place word p)).1 = .exhausted := by
  induction h with
  | nil => cases ha
  | @skip b rest v w hp hrest ih =>
    rcases List.mem_cons.mp ha with rfl | ha
    · refine ⟨v, .head a rest v, fun p hp' => ?_⟩
      rw [hp] at hp'
      cases hp'
    · obtain ⟨u, hvisit, hat⟩ := ih ha
      exact ⟨u, hvisit.later fun h => .skip hp h, hat⟩
  | @back b rest v u' w q hp hnext hrest ih =>
    rcases List.mem_cons.mp ha with rfl | ha
    · refine ⟨v, .head a rest v, fun p hp' => ?_⟩
      obtain rfl : q = p := Option.some.inj (hp.symm.trans hp')
      rw [hnext]
    · obtain ⟨u, hvisit, hat⟩ := ih ha
      exact ⟨u, hvisit.later fun h => .back hp hnext h, hat⟩

end TryAnchors

section PlaceWords

variable (budget : Budget) (clock : Clock)

/-- A search for one word and more is abandoned at once, or tries the anchors for the word. -/
theorem placeWords_cons (first : Bool) (word : String) (rest : List String) (w : Walk) :
    placeWords budget clock first (word :: rest) w =
      if budget.spent clock w.enter.statistics = true then (.abandoned, w.enter)
      else tryAnchors word (placeWords budget clock false rest) (w.tries first word)
        (w.start first word) := by
  rw [placeWords_step]
  rfl

/-- The ways in which a search for one word and more ends: it is abandoned at once, or the anchors
for the word are tried. -/
theorem placeWords_end (first : Bool) (word : String) (rest : List String) (w : Walk) :
    (budget.spent clock w.enter.statistics = true ∧
      placeWords budget clock first (word :: rest) w = (.abandoned, w.enter)) ∨
    (budget.spent clock w.enter.statistics = false ∧
      TryEnd word (placeWords budget clock false rest) (w.tries first word) (w.start first word)
        (placeWords budget clock first (word :: rest) w)) := by
  rw [placeWords_cons]
  cases budget.spent clock w.enter.statistics with
  | true => exact Or.inl ⟨rfl, if_pos rfl⟩
  | false => exact Or.inr ⟨rfl, tryAnchors_end ..⟩

end PlaceWords

/-! ## Counters only grow -/

/-- A relation between the counters of a search at one time and at a later one: whatever is counted
in between keeps it. A search counts no attempts. -/
structure Rising (R : Statistics → Statistics → Prop) : Prop where
  refl : ∀ s, R s s
  trans : ∀ {r s t}, R r s → R s t → R r t
  count : ∀ s more : Statistics, more.attempts = 0 → R s (s.absorb more)

namespace Rising

variable {R : Statistics → Statistics → Prop} (h : Rising R) {word : String}
  {next : Walk → Outcome × Walk}

include h

theorem enter (w : Walk) : R w.statistics w.enter.statistics := by
  rw [Walk.statistics_enter]
  exact h.count _ _ rfl

theorem start (w : Walk) (first : Bool) (word : String) :
    R w.enter.statistics (w.start first word).statistics := by
  rw [Walk.statistics_start_of_enter]
  exact h.count _ _ rfl

theorem place (w : Walk) (word : String) (p : Placement) :
    R w.statistics (w.place word p).statistics := by
  rw [Walk.statistics_place]
  exact h.count _ _ rfl

theorem countBacktrack (w : Walk) : R w.statistics w.countBacktrack.statistics := by
  rw [Walk.statistics_countBacktrack]
  exact h.count _ _ rfl

/-- A search for the words after one that has been placed keeps it. -/
theorem next_place (hnext : ∀ w, R w.statistics (next w).2.statistics) {v u : Walk}
    {p : Placement} {outcome : Outcome} (heq : next (v.place word p) = (outcome, u)) :
    R v.statistics u.statistics := by
  have hplace := hnext (v.place word p)
  rw [heq] at hplace
  exact h.trans (h.place v word p) hplace

/-- Anchors tried in vain keep it. -/
theorem tried (hnext : ∀ w, R w.statistics (next w).2.statistics) {anchors : List Anchor}
    {v w : Walk} (htried : Tried word next anchors v w) : R v.statistics w.statistics := by
  induction htried with
  | nil => exact h.refl _
  | skip _ _ ih => exact ih
  | @back _ _ _ u _ _ _ heq _ ih =>
    exact h.trans (h.next_place hnext heq) (h.trans (h.countBacktrack u.takeBack) ih)

/-- However trying anchors ends, it keeps it. -/
theorem tryEnd (hnext : ∀ w, R w.statistics (next w).2.statistics) {anchors : List Anchor}
    {v : Walk} {result : Outcome × Walk} (hend : TryEnd word next anchors v result) :
    R v.statistics result.2.statistics := by
  cases hend with
  | exhausted htried => exact h.tried hnext htried
  | solved _ htried _ heq => exact h.trans (h.tried hnext htried) (h.next_place hnext heq)
  | @abandoned _ _ _ u w _ _ htried _ heq =>
    have hplace : R u.statistics w.statistics := h.next_place hnext heq
    exact h.trans (h.tried hnext htried) hplace

/-- Whatever is tried after the search for one anchor keeps it. -/
theorem tryAnchors_cons (hnext : ∀ w, R w.statistics (next w).2.statistics) {a : Anchor} {v : Walk}
    {p : Placement} (hp : v.placement? word a = some p) (rest : List Anchor) :
    R (next (v.place word p)).2.statistics
      (tryAnchors word next (a :: rest) v).2.statistics := by
  simp only [Crossword.tryAnchors_cons, hp]
  obtain ⟨outcome, u⟩ := next (v.place word p)
  cases outcome with
  | solved => exact h.refl _
  | abandoned => exact h.refl _
  | exhausted =>
    exact h.trans (h.countBacktrack u.takeBack) (h.tryEnd hnext (tryAnchors_end rest _))

section Search

variable (budget : Budget) (clock : Clock)

/-- Once a state has been entered, a search keeps it if the one for the words after the next
does. -/
private theorem placeWords_of_rest {rest : List String}
    (hrest : ∀ v, R v.statistics (Crossword.placeWords budget clock false rest v).2.statistics)
    (first : Bool) (word : String) (w : Walk) :
    R w.enter.statistics
      (Crossword.placeWords budget clock first (word :: rest) w).2.statistics := by
  rcases placeWords_end budget clock first word rest w with ⟨-, heq⟩ | ⟨-, hend⟩
  · rw [heq]
    exact h.refl _
  · exact h.trans (h.start w first word) (h.tryEnd hrest hend)

/-- A search keeps it. -/
theorem placeWords (first : Bool) (words : List String) (w : Walk) :
    R w.statistics (Crossword.placeWords budget clock first words w).2.statistics := by
  induction words generalizing first w with
  | nil => exact h.refl _
  | cons word rest ih =>
    exact h.trans (h.enter w) (h.placeWords_of_rest budget clock (ih false) first word w)

/-- A search keeps it from its first state on. -/
theorem enter_placeWords (first : Bool) (word : String) (rest : List String) (w : Walk) :
    R w.enter.statistics (Crossword.placeWords budget clock first (word :: rest) w).2.statistics :=
  h.placeWords_of_rest budget clock (h.placeWords budget clock false rest) first word w

end Search

end Rising

theorem rising_deepest : Rising fun s t => s.deepest ≤ t.deepest where
  refl _ := Nat.le_refl _
  trans := Nat.le_trans
  count _ _ _ := Nat.le_max_left ..

theorem rising_attempts : Rising fun s t => t.attempts = s.attempts where
  refl _ := rfl
  trans h h' := h'.trans h
  count s more h := show s.attempts + more.attempts = s.attempts by rw [h, Nat.add_zero]

/-- The most words placed at one time never become fewer in a search. -/
theorem deepest_le_placeWords (budget : Budget) (clock : Clock) (first : Bool)
    (words : List String) (w : Walk) :
    w.statistics.deepest ≤ (placeWords budget clock first words w).2.statistics.deepest :=
  rising_deepest.placeWords budget clock first words w

/-- A search counts no attempts. -/
theorem attempts_placeWords (budget : Budget) (clock : Clock) (first : Bool) (words : List String)
    (w : Walk) :
    (placeWords budget clock first words w).2.statistics.attempts = w.statistics.attempts :=
  rising_attempts.placeWords budget clock first words w

/-! ## Failed searches lead back -/

/-- Undoing leads back: from any draft that `R` puts where a word was just placed, taking the word
back leads to one that `R` puts where it was placed. This may depend on `P`, which holds of the
drafts of the search, and on the layout having fewer than `M` words. -/
structure Restoring (M : Nat) (P : Draft → Prop) (R : Draft → Draft → Prop) : Prop where
  refl : ∀ d, R d d
  trans : ∀ {c d e}, R c d → R d e → R c e
  step : ∀ {first word a p d e}, P d → R e d → a ∈ d.choices first word →
    Placement.ofAnchor? a word.length e.grid.rows e.grid.cols = some p → e.layout.size < M →
    P (e.commit word p) ∧ ∀ f, R f (e.commit word p) → R f.undo e

namespace Restoring

variable {M : Nat} {P : Draft → Prop} {R : Draft → Draft → Prop} {word : String}
  {next : Walk → Outcome × Walk}

/-- Holds of a search that leads back to where it began if it fails, as long as it never places more
than `M` words. -/
def LeadsBack (M : Nat) (P : Draft → Prop) (R : Draft → Draft → Prop)
    (next : Walk → Outcome × Walk) : Prop :=
  ∀ w : Walk, P w.draft → (next w).2.statistics.deepest ≤ M → (next w).1 ≠ .solved →
    R (next w).2.draft w.draft

/-- A word can be placed at an anchor that is tried for it, and taking it back leads back. -/
theorem step_place (h : Restoring M P R) {first : Bool} {a : Anchor} {p : Placement} {d : Draft}
    {v : Walk} (hd : P d) (hv : R v.draft d) (ha : a ∈ d.choices first word)
    (hp : v.placement? word a = some p) (hdeep : (v.place word p).statistics.deepest ≤ M) :
    P (v.place word p).draft ∧ ∀ f, R f (v.place word p).draft → R f.undo v.draft := by
  rw [Walk.deepest_place] at hdeep
  exact h.step hd hv ha hp (by omega)

/-- Trying anchors in vain leads back. -/
theorem tried (h : Restoring M P R) (hback : LeadsBack M P R next)
    (hmono : ∀ w, w.statistics.deepest ≤ (next w).2.statistics.deepest) {first : Bool}
    {d : Draft} (hd : P d) {anchors : List Anchor} {v w : Walk}
    (htried : Tried word next anchors v w) (hv : R v.draft d)
    (hanchors : ∀ a ∈ anchors, a ∈ d.choices first word) (hdeep : w.statistics.deepest ≤ M) :
    R w.draft d := by
  induction htried with
  | nil => exact hv
  | skip _ _ ih =>
    exact ih hv (fun a ha => hanchors a (List.mem_cons_of_mem _ ha)) hdeep
  | @back a rest v u w p hp hnext hrest ih =>
    have hu : u.statistics.deepest ≤ M :=
      Nat.le_trans
        (rising_deepest.tried hmono hrest : u.takeBack.countBacktrack.statistics.deepest ≤ _) hdeep
    have hplace := hmono (v.place word p)
    rw [hnext] at hplace
    obtain ⟨hcommit, hundo⟩ :=
      h.step_place hd hv (hanchors a (List.mem_cons_self ..)) hp (Nat.le_trans hplace hu)
    have hsub := hback (v.place word p) hcommit
    rw [hnext] at hsub
    -- the search after the word leads back to the word, and taking it back to where it was placed
    have hrestored : R u.takeBack.countBacktrack.draft v.draft :=
      hundo _ (hsub hu Outcome.noConfusion)
    exact ih (h.trans hrestored hv) (fun b hb => hanchors b (List.mem_cons_of_mem _ hb)) hdeep

/-- Where an anchor is tried, the draft is back where the search for its word began. -/
theorem returns_of_leadsBack (h : Restoring M P R) (hback : LeadsBack M P R next)
    (hmono : ∀ w, w.statistics.deepest ≤ (next w).2.statistics.deepest) {first : Bool}
    {w u : Walk} {a : Anchor} (hw : P w.draft)
    (hvisit : Visit word next (w.tries first word) (w.start first word) a u)
    (hdeep : u.statistics.deepest ≤ M) : R u.draft w.draft := by
  obtain ⟨tried, hsub, htried⟩ := hvisit.before
  have hchoices : ∀ b ∈ tried, b ∈ w.draft.choices first word := fun b hb =>
    (w.mem_tries first word).mp (hsub b hb)
  exact h.tried hback hmono hw htried (h.refl _) hchoices hdeep

/-- Where an anchor is tried, the word can be placed, and taking it back leads back. -/
theorem visit_of_leadsBack (h : Restoring M P R) (hback : LeadsBack M P R next)
    (hmono : ∀ w, w.statistics.deepest ≤ (next w).2.statistics.deepest) {first : Bool}
    {w u : Walk} {a : Anchor} {p : Placement} (hw : P w.draft)
    (hvisit : Visit word next (w.tries first word) (w.start first word) a u)
    (hp : u.placement? word a = some p) (hdeep : (u.place word p).statistics.deepest ≤ M) :
    R u.draft w.draft ∧ P (u.place word p).draft ∧
      ∀ f, R f (u.place word p).draft → R f.undo u.draft := by
  have hu : R u.draft w.draft := by
    apply h.returns_of_leadsBack hback hmono hw hvisit
    rw [Walk.deepest_place] at hdeep
    exact Nat.le_trans (Nat.le_max_left ..) hdeep
  exact ⟨hu, h.step_place hw hu ((w.mem_tries first word).mp hvisit.mem) hp hdeep⟩

section Search

variable (h : Restoring M P R) (budget : Budget) (clock : Clock)

include h

/-- A failed search leads back to where it began. -/
theorem placeWords (first : Bool) (words : List String) :
    LeadsBack M P R (placeWords budget clock first words) := by
  induction words generalizing first with
  | nil =>
    intro w _ _ hfail
    exact absurd rfl hfail
  | cons word rest ih =>
    intro w hw hdeep hfail
    have hmono := deepest_le_placeWords budget clock false rest
    rcases placeWords_end budget clock first word rest w with ⟨-, heq⟩ | ⟨-, hend⟩
    · rw [heq]
      exact h.refl _
    · generalize Crossword.placeWords budget clock first (word :: rest) w = result at *
      cases hend with
      | exhausted htried =>
        exact h.tried (ih false) hmono hw htried (h.refl _) (fun a => (w.mem_tries first word).mp)
          hdeep
      | solved => exact absurd rfl hfail
      | @abandoned tried untried a u v p hanchors htried hp hnext =>
        -- the word is still on the draft when the search after it is abandoned
        have hplaced := hmono (u.place word p)
        have hfailed := ih false (u.place word p)
        rw [hnext] at hplaced hfailed
        obtain ⟨hu, hcommit, hundo⟩ := h.visit_of_leadsBack (ih false) hmono hw
          (.of_append hanchors htried) hp (Nat.le_trans hplaced hdeep)
        exact h.trans (hundo _ (hfailed hcommit hdeep Outcome.noConfusion)) hu

/-- Where an anchor is tried in a search, the draft is back where the search for its word began. -/
theorem returns {first : Bool} {word : String} {rest : List String} {w u : Walk} {a : Anchor}
    (hw : P w.draft)
    (hvisit : Visit word (Crossword.placeWords budget clock false rest) (w.tries first word)
      (w.start first word) a u)
    (hdeep : u.statistics.deepest ≤ M) : R u.draft w.draft :=
  h.returns_of_leadsBack (h.placeWords budget clock false rest)
    (deepest_le_placeWords budget clock false rest) hw hvisit hdeep

/-- Where an anchor is tried in a search, the word can be placed, and taking it back leads back. -/
theorem visit {first : Bool} {word : String} {rest : List String} {w u : Walk} {a : Anchor}
    {p : Placement} (hw : P w.draft)
    (hvisit : Visit word (Crossword.placeWords budget clock false rest) (w.tries first word)
      (w.start first word) a u)
    (hp : u.placement? word a = some p) (hdeep : (u.place word p).statistics.deepest ≤ M) :
    R u.draft w.draft ∧ P (u.place word p).draft ∧
      ∀ f, R f (u.place word p).draft → R f.undo u.draft :=
  h.visit_of_leadsBack (h.placeWords budget clock false rest)
    (deepest_le_placeWords budget clock false rest) hw hvisit hp hdeep

end Search

end Restoring

/-- Undoing is exact on sound drafts, as long as no count is full. -/
theorem restoring_sound : Restoring maxOwners Draft.Sound Eq where
  refl _ := rfl
  trans := Eq.trans
  step := by
    rintro first word a p d _ hd rfl ha hp hroom
    have hfits := Draft.fits_of_mem_choices ha
    refine ⟨hd.commit hfits hp hroom, ?_⟩
    rintro _ rfl
    exact hd.undo_commit hfits hp hroom

/-- Whatever the counts, undoing only fades. -/
theorem restoring_fades (M : Nat) : Restoring M Draft.Counted Draft.Fades where
  refl := Draft.Fades.refl
  trans := Draft.Fades.trans
  step := by
    intro first word a p d e hd he _ hp _
    have hcounted := Draft.counted_of_shape he.shape hd
    exact ⟨Draft.counted_of_shape (Draft.shape_commit ..) hcounted,
      fun f hf => hf.undo_commit hcounted hp⟩

end Crossword
