import Crossword.Proofs.SearchSteps

/-!
# Courses

A course places words one after the other, each at an anchor that the search tries for it. A search
that succeeds on a sound draft follows a course (`course_of_solved`); what a course does to the
record of a draft is read off its words and anchors (`Course.entries`). On any other draft, a search
that succeeds still records its words (`words_of_solved`).
-/

namespace Crossword

/-- Words placed on a draft one after the other, each at one of the anchors tried for it; the first
one is centred if `first` holds. -/
inductive Course : (first : Bool) → Draft → List (String × Anchor) → Draft → Prop
  | nil (first : Bool) (d : Draft) : Course first d [] d
  | cons {first : Bool} {d e : Draft} {word : String} {a : Anchor} {p : Placement}
      {placed : List (String × Anchor)} (ha : a ∈ d.choices first word)
      (hp : Placement.ofAnchor? a word.length d.grid.rows d.grid.cols = some p)
      (hrest : Course false (d.commit word p) placed e) : Course first d ((word, a) :: placed) e

/-- A placed word as it is recorded. -/
def PlacedWord.record (entry : PlacedWord) : String × Option Placement :=
  (entry.word, some entry.placement)

/-- How a word placed at an anchor of a rectangle is recorded. -/
def recordAt (rows cols : Nat) (x : String × Anchor) : String × Option Placement :=
  (x.1, Placement.ofAnchor? x.2 x.1.length rows cols)

namespace Course

variable {first : Bool} {d e : Draft} {placed : List (String × Anchor)}

theorem shape (h : Course first d placed e) : e.shape = d.shape := by
  induction h with
  | nil => rfl
  | cons _ _ _ ih => exact ih.trans (Draft.shape_commit ..)

/-- A course records its words where it places them. -/
theorem entries (h : Course first d placed e) :
    e.layout.entries.map PlacedWord.record =
      d.layout.entries.map PlacedWord.record ++
        placed.map (recordAt d.grid.rows d.grid.cols) := by
  induction h with
  | nil => simp
  | @cons first d e word a p placed ha hp hrest ih =>
    have hshape := Draft.shape_commit d word p
    rw [Draft.rows_of_shape hshape, Draft.cols_of_shape hshape, Draft.layout_commit,
      Layout.entries_push] at ih
    rw [ih]
    simp [recordAt, PlacedWord.record, hp]

/-- The words of a course are recorded in their order. -/
theorem words (h : Course first d placed e) :
    e.layout.entries.map (·.word) = d.layout.entries.map (·.word) ++ placed.map Prod.fst := by
  have hentries := congrArg (List.map Prod.fst) h.entries
  simpa [PlacedWord.record, recordAt, Function.comp_def] using hentries

end Course

/-- A search that succeeds has followed a course, and its draft is sound. -/
theorem course_of_solved {budget : Budget} {clock : Clock} {first : Bool} {words : List String}
    {w v : Walk} (h : placeWords budget clock first words w = (.solved, v))
    (hsound : w.draft.Sound) (hdeep : v.statistics.deepest ≤ maxOwners) :
    (∃ placed, placed.map Prod.fst = words ∧ Course first w.draft placed v.draft) ∧
      v.draft.Sound := by
  induction words generalizing first w with
  | nil =>
    obtain rfl : w = v := congrArg Prod.snd h
    exact ⟨⟨[], rfl, .nil first _⟩, hsound⟩
  | cons word rest ih =>
    rcases placeWords_end budget clock first word rest w with ⟨-, heq⟩ | ⟨-, hend⟩
    · rw [heq] at h
      cases h
    · rw [h] at hend
      cases hend with
      | @solved tried untried a u _ p hanchors htried hp hnext =>
        have hplace := deepest_le_placeWords budget clock false rest (u.place word p)
        rw [hnext] at hplace
        -- the anchors tried before it have left the draft as it was
        have hvisit := Visit.of_append hanchors htried
        have ha := (w.mem_tries first word).mp hvisit.mem
        obtain ⟨hu, hcommit, -⟩ :=
          restoring_sound.visit budget clock hsound hvisit hp (Nat.le_trans hplace hdeep)
        obtain ⟨⟨placed, hwords, hcourse⟩, hv⟩ := ih hnext hcommit
        rw [Walk.draft_place, hu] at hcourse
        rw [Walk.placement?, hu] at hp
        exact ⟨⟨(word, a) :: placed, by rw [List.map_cons, hwords], .cons ha hp hcourse⟩, hv⟩

/-- A search that succeeds has added its words to the layout, whatever the counts. -/
theorem words_of_solved {budget : Budget} {clock : Clock} {first : Bool} {words : List String}
    {w v : Walk} (h : placeWords budget clock first words w = (.solved, v))
    (hcounted : w.draft.Counted) :
    v.draft.layout.entries.map (·.word) = w.draft.layout.entries.map (·.word) ++ words := by
  induction words generalizing first w with
  | nil =>
    obtain rfl : w = v := congrArg Prod.snd h
    rw [List.append_nil]
  | cons word rest ih =>
    rcases placeWords_end budget clock first word rest w with ⟨-, heq⟩ | ⟨-, hend⟩
    · rw [heq] at h
      cases h
    · rw [h] at hend
      cases hend with
      | @solved tried untried a u _ p hanchors htried hp hnext =>
        -- the anchors tried before it may have cost letters, but no words
        obtain ⟨hu, hcommit, -⟩ := (restoring_fades _).visit budget clock hcounted
          (.of_append hanchors htried) hp (Nat.le_refl _)
        rw [ih hnext hcommit, Walk.draft_place, Draft.layout_commit, Layout.entries_push,
          hu.layout, List.map_append, List.map_singleton, List.append_assoc]
        rfl

end Crossword
