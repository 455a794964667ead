import Crossword.Proofs.Admissible
import Crossword.Proofs.Courses
import Crossword.Proofs.Crossings

/-!
# Completeness of the search

The anchors that the search tries for a word are those at which the word can come next in an
admissible layout: none is missing (`Draft.Records.mem_choices`), and on a sound draft there is no
other one (`Draft.Sound.extends_of_mem_choices`).

Main results: `not_admissible_of_exhausted` (a search that is exhausted leaves no admissible layout
that goes on from where it began, whatever the counts) and `Course.admissible` (what a search places
is admissible).
-/

namespace Crossword

/-! ## Drafts that record a layout -/

/-- A draft records a layout if it holds the layout's words where the layout has them, and no letter
that is not one of theirs. Letters may be missing. -/
structure Draft.Records (d : Draft) (side : Nat) (placed : List (String × Anchor)) : Prop where
  counted : d.Counted
  rows : d.grid.rows = side
  cols : d.grid.cols = side
  entries : d.layout.entries.map PlacedWord.record = placed.map (recordAt side side)
  letters : ∀ q c, d.grid.get? q = some (.letter c) →
    ∃ x ∈ placed, x.2.letterAt? x.1 q = some c

/-- A word that is written from an anchor has its letters where the anchor puts them. -/
theorem PlacedWord.mem_lettered_iff {entry : PlacedWord} {x : String × Anchor}
    {rows cols : Nat} (hword : x.1 = entry.word)
    (hp : Placement.ofAnchor? x.2 x.1.length rows cols = some entry.placement) {q : Position}
    {c : Char} : (q, c) ∈ entry.lettered ↔ x.2.letterAt? x.1 q = some c := by
  rw [entry.lettered_eq, ← hword]
  exact Placement.mem_lettered_iff hp

namespace Draft.Records

variable {d e : Draft} {side : Nat} {placed : List (String × Anchor)}

/-- The blank draft records the layout without words. -/
theorem blank (side : Nat) : (Draft.blank side).Records side [] where
  counted := rfl
  rows := rfl
  cols := rfl
  entries := rfl
  letters q c h := by
    rw [Draft.blank, onGrid, Grid.blank, Board.get?_fill] at h
    split at h <;> simp at h

/-- A draft that fades records what it did. -/
theorem of_fades (h : d.Records side placed) (hfades : e.Fades d) : e.Records side placed where
  counted := counted_of_shape hfades.shape h.counted
  rows := (rows_of_shape hfades.shape).trans h.rows
  cols := (cols_of_shape hfades.shape).trans h.cols
  entries := by
    rw [hfades.layout]
    exact h.entries
  letters q c hq := by
    rcases hfades.grid q with heq | hblank
    · rw [heq] at hq
      exact h.letters q c hq
    · rw [hblank] at hq
      simp at hq

/-- A draft on which a word is placed records one more. -/
theorem commit (h : d.Records side placed) {word : String} {a : Anchor} {p : Placement}
    (hp : Placement.ofAnchor? a word.length side side = some p) :
    (d.commit word p).Records side (placed ++ [(word, a)]) where
  counted := counted_of_shape (shape_commit ..) h.counted
  rows := (rows_of_shape (shape_commit ..)).trans h.rows
  cols := (cols_of_shape (shape_commit ..)).trans h.cols
  entries := by
    rw [layout_commit, Layout.entries_push, List.map_append, List.map_append, h.entries]
    simp [PlacedWord.record, recordAt, hp]
  letters q c hq := by
    obtain ⟨hnodup, hin⟩ := h.counted.squares_of_ofAnchor? (by
      rw [h.rows, h.cols]
      exact hp)
    by_cases hnew : q ∈ (p.lettered word).map Prod.fst ∧ d.ownersAt q = 0
    · -- a square without an owner gets its letter from the new word
      obtain ⟨⟨⟨_, c'⟩, hmem, rfl⟩, h0⟩ := List.mem_map.mp hnew.1, hnew.2
      have hwritten := get?_grid_claimSquares_of_mem hnodup hin hmem h0
      have hc : c' = c := by simpa using hwritten.symm.trans hq
      exact ⟨(word, a), by simp, hc ▸ (Placement.mem_lettered_iff hp).mp hmem⟩
    · -- every other square keeps what it had
      have hkept := get?_grid_claimSquares_of_not hnodup hin (not_and_or.mp hnew)
      obtain ⟨x, hx, hletter⟩ := h.letters q c (hkept.symm.trans hq)
      exact ⟨x, List.mem_append_left _ hx, hletter⟩

/-- Each word of the draft is one of the layout, written from its anchor. -/
theorem exists_of_mem_entries (h : d.Records side placed) {entry : PlacedWord}
    (he : entry ∈ d.layout.entries) : ∃ x ∈ placed, x.1 = entry.word ∧
      Placement.ofAnchor? x.2 x.1.length side side = some entry.placement := by
  have hmem : entry.record ∈ placed.map (recordAt side side) :=
    h.entries ▸ List.mem_map.mpr ⟨entry, he, rfl⟩
  obtain ⟨x, hx, heq⟩ := List.mem_map.mp hmem
  exact ⟨x, hx, congrArg Prod.fst heq, congrArg Prod.snd heq⟩

/-- Each word of the layout is one of the draft. -/
theorem exists_of_mem_placed (h : d.Records side placed) {x : String × Anchor} (hx : x ∈ placed) :
    ∃ entry ∈ d.layout.entries, x.1 = entry.word ∧
      Placement.ofAnchor? x.2 x.1.length side side = some entry.placement := by
  have hmem : recordAt side side x ∈ d.layout.entries.map PlacedWord.record :=
    h.entries.symm ▸ List.mem_map.mpr ⟨x, hx, rfl⟩
  obtain ⟨entry, he, heq⟩ := List.mem_map.mp hmem
  exact ⟨entry, he, congrArg Prod.fst heq.symm, congrArg Prod.snd heq.symm⟩

/-- The words of the draft put letters where those of the layout do. -/
theorem lettered_iff (h : d.Records side placed) {q : Position} {c : Char} :
    (∃ entry ∈ d.layout.entries, (q, c) ∈ entry.lettered) ↔
      ∃ x ∈ placed, x.2.letterAt? x.1 q = some c := by
  constructor
  · intro hentry
    obtain ⟨entry, he, hq⟩ := hentry
    obtain ⟨x, hx, hword, hp⟩ := h.exists_of_mem_entries he
    exact ⟨x, hx, (PlacedWord.mem_lettered_iff hword hp).mp hq⟩
  · intro hx
    obtain ⟨x, hx, hq⟩ := hx
    obtain ⟨entry, he, hword, hp⟩ := h.exists_of_mem_placed hx
    exact ⟨entry, he, (PlacedWord.mem_lettered_iff hword hp).mpr hq⟩

end Draft.Records

/-! ## The anchors that are tried -/

section Choices

variable {d : Draft} {side : Nat} {pre : List (String × Anchor)} {first : Bool}
  {x : String × Anchor}

/-- Where a word can come next in an admissible layout, it is tried. -/
theorem Draft.Records.mem_choices (h : d.Records side pre) (hadm : Admissible side pre)
    (hfirst : first = true ↔ pre = []) (hle : x.1.length ≤ side) (hx : Extends side pre x) :
    x.2 ∈ d.choices first x.1 := by
  have hstays := hx.inside hle
  have hfits : d.grid.fits x.1 x.2 = true := by
    rw [Grid.fits_iff_letterAt?, h.rows, h.cols]
    refine ⟨hstays, ?_⟩
    intro q c e hc he
    -- a letter that is on the draft is on the sheet too
    obtain ⟨y, hy, hletter⟩ := h.letters q e he
    rw [Extends, if_neg (List.ne_nil_of_mem hy)] at hx
    exact hx.agrees q c e hc (hadm.agree.get?_sheet hy hletter (hstays.inside hc))
  cases first with
  | true =>
    rw [Extends, if_pos (hfirst.mp rfl)] at hx
    rw [Draft.choices, if_pos rfl, Grid.centreAnchors, List.mem_filter, h.rows, h.cols]
    exact ⟨hx, hfits⟩
  | false =>
    rw [Extends, if_neg fun e => Bool.noConfusion (hfirst.mpr e)] at hx
    -- the letter that the word meets is offered to it by the word it belongs to
    obtain ⟨q, c, e, hc, he⟩ := hx.meets
    obtain rfl := hx.agrees q c e hc he
    obtain ⟨entry, hentry, hq⟩ := h.lettered_iff.mpr (exists_of_get?_sheet he)
    exact Layout.mem_crossings_iff_letterAt?.mpr ⟨hfits, entry, hentry, q, c, hq, hc⟩

/-- On a blank draft, a word that fits the side can be tried. -/
theorem Draft.exists_mem_choices_blank {word : String} (hle : word.length ≤ side) :
    ∃ a, a ∈ (blank side).choices true word := by
  obtain ⟨a, hext⟩ := exists_extends_nil side word
  exact ⟨a, (Records.blank side).mem_choices (x := (word, a)) (admissible_nil side)
    (iff_of_true rfl rfl) hle hext⟩

/-- Where a word is tried on a sound draft, it can come next in an admissible layout. -/
theorem Draft.Sound.extends_of_mem_choices (hd : d.Sound) (h : d.Records side pre)
    (hadm : Admissible side pre) (hfirst : first = true ↔ pre = [])
    (hx : x.2 ∈ d.choices first x.1) : Extends side pre x := by
  obtain ⟨hstays, hagrees⟩ := Grid.fits_iff_letterAt?.mp (Draft.fits_of_mem_choices hx)
  rw [h.rows, h.cols] at hstays
  cases first with
  | true =>
    rw [Extends, if_pos (hfirst.mp rfl)]
    rw [Draft.choices, if_pos rfl, Grid.centreAnchors, List.mem_filter, h.rows, h.cols] at hx
    exact hx.1
  | false =>
    rw [Extends, if_neg fun e => Bool.noConfusion (hfirst.mpr e)]
    refine ⟨hstays, ?_, ?_⟩
    · intro q c e hc he
      obtain ⟨entry, hentry, hq⟩ := h.lettered_iff.mpr (exists_of_get?_sheet he)
      exact hagrees q c e hc (hd.get?_of_mem hentry hq)
    · obtain ⟨-, entry, hentry, q, c, hq, hc⟩ := Layout.mem_crossings_iff_letterAt?.mp hx
      obtain ⟨y, hy, hletter⟩ := h.lettered_iff.mp ⟨entry, hentry, hq⟩
      exact ⟨q, c, c, hc, hadm.agree.get?_sheet hy hletter (hstays.inside hc)⟩

end Choices

/-! ## Whole searches -/

variable {side : Nat} {pre placed : List (String × Anchor)} {first : Bool}

/-- **An exhausted search has missed nothing.** If a search for some words is exhausted on a draft
that records a layout, no admissible layout goes on from there with those words. It does not matter
how many words there are. -/
theorem not_admissible_of_exhausted (budget : Budget) (clock : Clock) {words : List String}
    {w : Walk} (h : (placeWords budget clock first words w).1 = .exhausted)
    (hrec : w.draft.Records side pre) (hfirst : first = true ↔ pre = [])
    (hle : ∀ word ∈ words, word.length ≤ side) (hwords : placed.map Prod.fst = words) :
    ¬ Admissible side (pre ++ placed) := by
  induction words generalizing first w pre placed with
  | nil => cases h
  | cons word rest ih =>
    intro hadm
    obtain ⟨⟨word', a⟩, placed, rfl, hword, hrest⟩ := List.map_eq_cons_iff.mp hwords
    obtain rfl : word' = word := hword
    rcases placeWords_end budget clock first word' rest w with ⟨-, heq⟩ | ⟨-, hend⟩
    · rw [heq] at h
      cases h
    · generalize placeWords budget clock first (word' :: rest) w = result at h hend
      cases hend with
      | solved => cases h
      | abandoned => cases h
      | exhausted htried =>
        have hlen : word'.length ≤ side := hle word' (List.mem_cons_self ..)
        have hext : Extends side pre (word', a) := hadm pre (word', a) placed rfl
        have hchoice := hrec.mem_choices hadm.of_append hfirst hlen hext
        -- the anchor was tried in vain, on a draft that still records the layout
        obtain ⟨u, hvisit, hvain⟩ := htried.visit ((w.mem_tries first word').mpr hchoice)
        have hu : u.draft.Records side pre := hrec.of_fades <|
          (restoring_fades u.statistics.deepest).returns budget clock hrec.counted hvisit
            (Nat.le_refl _)
        obtain ⟨p, hp⟩ := Placement.exists_of_staysInside (hext.inside hlen)
        have hplace : u.placement? word' a = some p := by
          rw [Walk.placement?, hu.rows, hu.cols]
          exact hp
        have hcommit : (u.place word' p).draft.Records side (pre ++ [(word', a)]) := hu.commit hp
        have hnot : ¬ Admissible side ((pre ++ [(word', a)]) ++ placed) :=
          ih (hvain p hplace) hcommit (by simp) (fun v hv => hle v (List.mem_cons_of_mem _ hv))
            hrest
        rw [List.append_assoc] at hnot
        exact hnot hadm

namespace Course

variable {d e : Draft}

/-- A course on a draft that records a layout leads to one that records the longer layout. -/
theorem records (h : Course first d placed e) (hrec : d.Records side pre) :
    e.Records side (pre ++ placed) := by
  induction h generalizing pre with
  | nil => rwa [List.append_nil]
  | @cons first d e word a p placed ha hp hrest ih =>
    rw [hrec.rows, hrec.cols] at hp
    have hnext := ih (hrec.commit hp)
    rwa [List.append_assoc] at hnext

/-- **What is placed is admissible.** A course on a sound draft that records an admissible layout
goes on with an admissible layout, as long as its words can be counted. -/
theorem admissible (h : Course first d placed e) (hd : d.Sound) (hrec : d.Records side pre)
    (hadm : Admissible side pre) (hfirst : first = true ↔ pre = [])
    (hroom : d.layout.size + placed.length ≤ maxOwners) : Admissible side (pre ++ placed) := by
  induction h generalizing pre with
  | nil => rwa [List.append_nil]
  | @cons first d e word a p placed ha hp hrest ih =>
    rw [List.length_cons] at hroom
    have hext : Extends side pre (word, a) := hd.extends_of_mem_choices hrec hadm hfirst ha
    have hcommit : (d.commit word p).Sound :=
      hd.commit (Draft.fits_of_mem_choices ha) hp (by omega)
    have hrec' : (d.commit word p).Records side (pre ++ [(word, a)]) := by
      rw [hrec.rows, hrec.cols] at hp
      exact hrec.commit hp
    have hnext := ih hcommit hrec' (admissible_append_singleton_iff.mpr ⟨hadm, hext⟩) (by simp)
      (by rw [Draft.layout_commit, Layout.size_push]; omega)
    rwa [List.append_assoc] at hnext

end Course

/-- Where a draft records a layout, each admissible layout that goes on from there is a course. -/
theorem Admissible.exists_course {d : Draft} (h : Admissible side (pre ++ placed))
    (hrec : d.Records side pre) (hfirst : first = true ↔ pre = [])
    (hle : ∀ x ∈ placed, x.1.length ≤ side) : ∃ e, Course first d placed e := by
  induction placed generalizing first d pre with
  | nil => exact ⟨d, .nil first d⟩
  | cons x placed ih =>
    obtain ⟨word, a⟩ := x
    have hext : Extends side pre (word, a) := h pre (word, a) placed rfl
    have hlen : word.length ≤ side := hle (word, a) (List.mem_cons_self ..)
    obtain ⟨p, hp⟩ := Placement.exists_of_staysInside (hext.inside hlen)
    have hnext : Admissible side ((pre ++ [(word, a)]) ++ placed) := by
      rwa [List.append_assoc]
    have hlater : ∃ e, Course false (d.commit word p) placed e :=
      ih hnext (hrec.commit hp) (by simp) fun x hx => hle x (List.mem_cons_of_mem _ hx)
    obtain ⟨e, he⟩ := hlater
    have hchoice := hrec.mem_choices h.of_append hfirst hlen hext
    exact ⟨e, .cons hchoice (by rwa [hrec.rows, hrec.cols]) he⟩

end Crossword
