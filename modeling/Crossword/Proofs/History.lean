import Crossword.Proofs.SearchSteps

/-!
# The history of a search

Every change that a search makes to its draft, in order: `searchChanges` lists the commits and the
undos of `placeWords`, each with the draft that it is applied to. The list is complete: each change
starts where the one before it ended, from the first draft to the last (`searchChanges_leads`).

Main result: `searchChanges_exact`. As long as fewer words are placed at one time than can be
counted, every change meets a sound draft and no count at its limit: no square of a word that is
placed is owned as often as can be counted, and no square of a word that is taken back is without
an owner.
-/

namespace Crossword

/-- A change to a draft, with the draft before it. -/
inductive Change where
  /-- A word is placed. -/
  | commit (d : Draft) (word : String) (p : Placement)
  /-- The latest word is taken back. -/
  | undo (d : Draft)

namespace Change

/-- The draft that is changed. -/
def before : Change → Draft
  | commit d _ _ => d
  | undo d => d

/-- The draft that results. -/
def after : Change → Draft
  | commit d word p => d.commit word p
  | undo d => d.undo

/-- Holds if no count is at its limit: none at the greatest number where owners are added, none at
zero where they are taken away. -/
def InRange : Change → Prop
  | commit d _ p => ∀ q ∈ p.cells, d.ownersAt q < maxOwners
  | undo d => ∀ entry l, d.layout.pop? = some (entry, l) →
      ∀ q ∈ entry.placement.cells, 0 < d.ownersAt q

end Change

/-- Holds if changes lead from one draft to another, each starting where the one before it ended. -/
def Leads (d : Draft) : List Change → Draft → Prop
  | [], e => d = e
  | c :: rest, e => c.before = d ∧ Leads c.after rest e

theorem Leads.append {d e f : Draft} {cs ds : List Change} (hcs : Leads d cs e)
    (hds : Leads e ds f) : Leads d (cs ++ ds) f := by
  induction cs generalizing d with
  | nil =>
    obtain rfl : d = e := hcs
    exact hds
  | cons c rest ih => exact ⟨hcs.1, ih hcs.2⟩

/-- The changes made while a word is tried at each anchor in turn; `changes` lists those made in the
search for the words after it. -/
def tryChanges (word : String) (next : Walk → Outcome × Walk) (changes : Walk → List Change) :
    List Anchor → Walk → List Change
  | [], _ => []
  | a :: rest, w =>
    match w.placement? word a with
    | none => tryChanges word next changes rest w
    | some p =>
      .commit w.draft word p :: (changes (w.place word p) ++
        match next (w.place word p) with
        | (.solved, _) => []
        | (.abandoned, v) => [.undo v.draft]
        | (.exhausted, v) =>
          .undo v.draft :: tryChanges word next changes rest v.takeBack.countBacktrack)

/-- The changes made in the search for a list of words. -/
def searchChanges (budget : Budget) (clock : Clock) :
    (first : Bool) → List String → Walk → List Change
  | _, [], _ => []
  | first, word :: rest, w =>
    if budget.spent clock w.enter.statistics then
      []
    else
      tryChanges word (placeWords budget clock false rest) (searchChanges budget clock false rest)
        (w.tries first word) (w.start first word)

section TryChanges

variable {word : String} {next : Walk → Outcome × Walk} {changes : Walk → List Change}

/-- The changes made while anchors are tried lead from the first draft to the last. -/
theorem tryChanges_leads
    (hnext : ∀ w : Walk, Leads w.draft (changes w) (next w).2.draft) (anchors : List Anchor)
    (w : Walk) :
    Leads w.draft (tryChanges word next changes anchors w)
      (tryAnchors word next anchors w).2.draft := by
  induction anchors generalizing w with
  | nil => exact rfl
  | cons a rest ih =>
    cases hp : w.placement? word a with
    | none =>
      simp only [tryChanges, tryAnchors_cons, hp]
      exact ih w
    | some p =>
      have hsub := hnext (w.place word p)
      simp only [tryChanges, tryAnchors_cons, hp]
      refine ⟨rfl, hsub.append ?_⟩
      cases next (w.place word p) with
      | mk outcome v =>
        cases outcome with
        | solved => exact rfl
        | abandoned => exact ⟨rfl, rfl⟩
        | exhausted => exact ⟨rfl, ih v.takeBack.countBacktrack⟩

/-- Where a change was made while anchors were tried: an anchor was tried at the walk `u`, and the
change places the word there, or is made in the search that follows, or takes the word back. -/
structure MadeAt (word : String) (next : Walk → Outcome × Walk) (changes : Walk → List Change)
    (anchors : List Anchor) (v : Walk) (c : Change) (a : Anchor) (u : Walk) (p : Placement) :
    Prop where
  visit : Visit word next anchors v a u
  placed : u.placement? word a = some p
  deepest : (next (u.place word p)).2.statistics.deepest ≤
    (tryAnchors word next anchors v).2.statistics.deepest
  made : c = .commit u.draft word p ∨ c ∈ changes (u.place word p) ∨
    (next (u.place word p)).1 ≠ .solved ∧ c = .undo (next (u.place word p)).2.draft

/-- Every change made while anchors are tried is made for one of them. -/
theorem madeAt_of_mem_tryChanges
    (hmono : ∀ w : Walk, w.statistics.deepest ≤ (next w).2.statistics.deepest)
    {anchors : List Anchor} {v : Walk} {c : Change}
    (hc : c ∈ tryChanges word next changes anchors v) :
    ∃ a u p, MadeAt word next changes anchors v c a u p := by
  induction anchors generalizing v with
  | nil => cases hc
  | cons a rest ih =>
    cases hp : v.placement? word a with
    | none =>
      simp only [tryChanges, hp] at hc
      obtain ⟨b, u, p, hmade⟩ := ih hc
      refine ⟨b, u, p, hmade.visit.later fun h => .skip hp h, hmade.placed, ?_, hmade.made⟩
      simp only [tryAnchors_cons, hp]
      exact hmade.deepest
    | some p =>
      simp only [tryChanges, hp] at hc
      have hhere : (next (v.place word p)).2.statistics.deepest ≤
          (tryAnchors word next (a :: rest) v).2.statistics.deepest :=
        rising_deepest.tryAnchors_cons hmono hp rest
      rcases List.mem_cons.mp hc with hc | hc
      · exact ⟨a, v, p, .head a rest v, hp, hhere, Or.inl hc⟩
      rcases List.mem_append.mp hc with hc | hc
      · exact ⟨a, v, p, .head a rest v, hp, hhere, Or.inr (Or.inl hc)⟩
      cases hnext : next (v.place word p) with
      | mk outcome u =>
        simp only [hnext] at hc
        have hundo : outcome ≠ .solved → c = .undo u.draft →
            ∃ b u p, MadeAt word next changes (a :: rest) v c b u p := by
          intro hfail hc
          refine ⟨a, v, p, .head a rest v, hp, hhere, Or.inr (Or.inr ?_)⟩
          rw [hnext]
          exact ⟨hfail, hc⟩
        cases outcome with
        | solved => cases hc
        | abandoned => exact hundo (by simp) (List.mem_singleton.mp hc)
        | exhausted =>
          rcases List.mem_cons.mp hc with hc | hc
          · exact hundo (by simp) hc
          · obtain ⟨b, u', q, hmade⟩ := ih hc
            refine ⟨b, u', q, hmade.visit.later fun h => .back hp hnext h, hmade.placed, ?_,
              hmade.made⟩
            simp only [tryAnchors_cons, hp, hnext]
            exact hmade.deepest

end TryChanges

section SearchChanges

variable (budget : Budget) (clock : Clock)

/-- The changes of a search lead from its first draft to its last. -/
theorem searchChanges_leads (first : Bool) (words : List String) (w : Walk) :
    Leads w.draft (searchChanges budget clock first words w)
      (placeWords budget clock first words w).2.draft := by
  induction words generalizing first w with
  | nil => exact rfl
  | cons word rest ih =>
    rw [searchChanges, placeWords_cons]
    cases budget.spent clock w.enter.statistics with
    | true => exact rfl
    | false => exact tryChanges_leads (ih false) (w.tries first word) (w.start first word)

/-- Every change of a search is made to a sound draft and with all counts in range. -/
theorem searchChanges_exact {first : Bool} {words : List String} {w : Walk}
    (hsound : w.draft.Sound)
    (hdeep : (placeWords budget clock first words w).2.statistics.deepest ≤ maxOwners) :
    ∀ c ∈ searchChanges budget clock first words w, c.before.Sound ∧ c.InRange := by
  induction words generalizing first w with
  | nil =>
    intro c hc
    cases hc
  | cons word rest ih =>
    intro c hc
    rw [searchChanges] at hc
    cases hspent : budget.spent clock w.enter.statistics with
    | true =>
      rw [if_pos hspent] at hc
      cases hc
    | false =>
      rw [if_neg (by simp [hspent])] at hc
      have hmono := deepest_le_placeWords budget clock false rest
      obtain ⟨a, u, p, hmade⟩ := madeAt_of_mem_tryChanges hmono hc
      have heq : placeWords budget clock first (word :: rest) w =
          tryAnchors word (placeWords budget clock false rest) (w.tries first word)
            (w.start first word) := by
        rw [placeWords_cons, if_neg (by simp [hspent])]
      have hnext := Nat.le_trans (heq ▸ hmade.deepest) hdeep
      have hplaced := Nat.le_trans (hmono (u.place word p)) hnext
      obtain ⟨hu, hcommit, -⟩ :=
        restoring_sound.visit budget clock hsound hmade.visit hmade.placed hplaced
      have husound : u.draft.Sound := hu ▸ hsound
      rcases hmade.made with rfl | hc | ⟨hfail, rfl⟩
      · refine ⟨husound, fun q _ => ?_⟩
        have hcount := Draft.coverCount_le_length u.draft.layout.entries q
        have hsize : u.draft.layout.entries.length = u.draft.layout.size := Array.length_toList
        rw [Walk.deepest_place] at hplaced
        rw [husound.owners]
        omega
      · exact ih hcommit hnext c hc
      · -- the search that failed has given back the draft with the word on it
        have hv := restoring_sound.placeWords budget clock false rest _ hcommit hnext hfail
        refine ⟨hv ▸ hcommit, ?_⟩
        rw [Change.InRange, hv]
        intro entry l hpop q hq
        rw [Walk.draft_place, Draft.layout_commit, Layout.pop?_push] at hpop
        obtain ⟨rfl, rfl⟩ : ({ word, placement := p } : PlacedWord) = entry ∧ _ = l := by
          simpa using hpop
        rw [hcommit.owners, Walk.draft_place, Draft.layout_commit, Layout.entries_push,
          Nat.pos_iff_ne_zero, ne_eq, Draft.coverCount_eq_zero_iff]
        intro hnone
        exact hnone _ (List.mem_append_right _ (List.mem_singleton.mpr rfl)) hq

end SearchChanges

end Crossword
