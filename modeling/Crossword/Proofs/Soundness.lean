import Crossword.Proofs.Consistency
import Crossword.Proofs.Ownership
import Crossword.Search.Placer

/-!
# Sound drafts

A draft is sound if it bears the words of its layout. The blank draft is, and a commit keeps a draft
sound as long as its counts have room (`Draft.Sound.commit`). Undoing the commit gives back the very
draft (`Draft.Sound.undo_commit`), and the layout of a sound draft agrees with its grid
(`Draft.Sound.check_eq_ok`).

Where counts may be full, undoing is no longer exact. What is left of it is that a draft only fades:
squares may lose owners and letters, none gets a letter that it did not have
(`Draft.Fades.undo_commit`).
-/

namespace Crossword

namespace Draft

/-- A word laid out on the grid covers different squares, and each of them is counted. -/
theorem Counted.squares_of_ofAnchor? {d : Draft} (hd : d.Counted) {a : Anchor} {word : String}
    {p : Placement} (hp : Placement.ofAnchor? a word.length d.grid.rows d.grid.cols = some p) :
    ((p.lettered word).map Prod.fst).Nodup ∧
      ∀ s ∈ p.lettered word, d.owners.Inside s.1 ∧ d.grid.Inside s.1 :=
  hd.squares (PlacedWord.isStraight_of_ofAnchor? hp) fun _ hq =>
    Placement.inside_of_ofAnchor? hp hq

@[simp] theorem shape_commit (d : Draft) (word : String) (p : Placement) :
    (d.commit word p).shape = d.shape := by
  rw [commit_eq]
  exact shape_claimSquares ..

theorem ownersAt_commit {d : Draft} {word : String} {p : Placement}
    (hnodup : ((p.lettered word).map Prod.fst).Nodup)
    (hin : ∀ s ∈ p.lettered word, d.owners.Inside s.1) (q : Position) :
    (d.commit word p).ownersAt q =
      if q ∈ (p.lettered word).map Prod.fst then min (d.ownersAt q + 1) maxOwners
      else d.ownersAt q :=
  ownersAt_claimSquares hnodup hin q

@[simp] theorem shape_undo (d : Draft) : d.undo.shape = d.shape := by
  unfold undo forget?
  cases d.layout.pop? with
  | none => rfl
  | some popped => exact shape_releaseSquares ..

section Undo

variable {d : Draft} {l : Layout} {word : String} {p : Placement}
  (h : d.layout = l.push word p)

include h

/-- The word placed last is the one taken back. -/
theorem undo_eq : d.undo = ({ d with layout := l }.release p).1 := by
  rw [undo, forget?, h, Layout.pop?_push]
  rfl

theorem layout_undo : d.undo.layout = l := by
  rw [undo_eq h]
  exact layout_releaseSquares ..

theorem ownersAt_undo (hnodup : p.cells.Nodup) (hin : ∀ q ∈ p.cells, d.owners.Inside q)
    (q : Position) :
    d.undo.ownersAt q = if q ∈ p.cells then d.ownersAt q - 1 else d.ownersAt q := by
  rw [undo_eq h]
  exact ownersAt_releaseSquares (d := { d with layout := l }) hnodup hin q

theorem get?_grid_undo (hnodup : p.cells.Nodup)
    (hin : ∀ q ∈ p.cells, d.owners.Inside q ∧ d.grid.Inside q) (q : Position) :
    d.undo.grid.get? q =
      if q ∈ p.cells ∧ d.ownersAt q ≤ 1 then some .blank else d.grid.get? q := by
  rw [undo_eq h]
  exact get?_grid_releaseSquares (d := { d with layout := l }) hnodup hin q

end Undo

/-- The anchors that the search tries for a word: the centre for the first one, else the
crossings. -/
def choices (d : Draft) (first : Bool) (word : String) : List Anchor :=
  if first then d.grid.centreAnchors word else d.layout.crossings d.grid word

/-- A word fits at each anchor that is tried for it. -/
theorem fits_of_mem_choices {d : Draft} {first : Bool} {word : String} {a : Anchor}
    (h : a ∈ d.choices first word) : d.grid.fits word a = true := by
  cases first with
  | true => exact (List.mem_filter.mp h).2
  | false => exact (Layout.mem_crossings.mp h).2

/-- So it can be laid out there. -/
theorem exists_placement_of_mem_choices {d : Draft} {first : Bool} {word : String} {a : Anchor}
    (h : a ∈ d.choices first word) :
    ∃ p, Placement.ofAnchor? a word.length d.grid.rows d.grid.cols = some p :=
  Placement.exists_of_staysInside (Grid.fits_iff_letterAt?.mp (fits_of_mem_choices h)).1

theorem nodup_choices (d : Draft) (first : Bool) (word : String) :
    (d.choices first word).Nodup := by
  cases first with
  | true => exact List.Pairwise.filter _ (by simp)
  | false => exact Layout.nodup_crossings ..

/-- A draft is sound if it bears the words of its layout. -/
def Sound (d : Draft) : Prop := d.Bears d.layout.entries

namespace Bears

variable {d e : Draft} {live : List PlacedWord}

/-- Only letters and counts matter. -/
theorem congr (h : d.Bears live) (hgrid : e.grid = d.grid) (howners : e.owners = d.owners) :
    e.Bears live := by
  obtain ⟨g, o, l⟩ := e
  simp only at hgrid howners
  subst hgrid howners
  exact ⟨h.counted, h.straight, h.inside, h.owners, h.letters⟩

/-- Where a word fits it can be claimed, as long as there is room in the counts. -/
theorem claim_of_fits (h : d.Bears live) {word : String} {a : Anchor} {p : Placement}
    (hfits : d.grid.fits word a = true)
    (hp : Placement.ofAnchor? a word.length d.grid.rows d.grid.cols = some p)
    (hroom : live.length < maxOwners) :
    (d.claim word p).1.Bears ({ word, placement := p } :: live) := by
  apply h.claim (PlacedWord.isStraight_of_ofAnchor? hp)
  · exact fun q hq => Placement.inside_of_ofAnchor? hp hq
  · exact fun q c hq => Grid.accepts_of_fits hfits hp hq
  · exact fun q _ => Nat.lt_of_le_of_lt (coverCount_le_length live q) hroom

/-- What a draft bears, its layout and its shape are all there is to it. -/
theorem eq (hd : d.Bears live) (he : e.Bears live) (hshape : d.shape = e.shape)
    (hlayout : d.layout = e.layout) : d = e := by
  have hgrid := hd.grid_eq he hshape
  have howners := hd.owners_eq he hshape
  obtain ⟨dg, d_o, dl⟩ := d
  obtain ⟨eg, eo, el⟩ := e
  simp only at hgrid howners hlayout
  subst hgrid howners hlayout
  rfl

end Bears

/-- A blank grid without owners bears no word. -/
theorem bears_onGrid_blank (rows cols : Nat) : (onGrid (.blank rows cols) rows cols).Bears [] := by
  have howners : ∀ q, (onGrid (.blank rows cols) rows cols).ownersAt q = 0 := by
    intro q
    rw [ownersAt, onGrid, Board.get?_fill]
    split <;> rfl
  refine ⟨rfl, ?_, ?_, howners, ?_⟩
  · intro entry he
    cases he
  · intro entry he
    cases he
  · intro q c
    constructor
    · intro h
      simp only [onGrid, Grid.blank, Board.get?_fill] at h
      split at h <;> simp at h
    · intro hex
      obtain ⟨entry, he, -⟩ := hex
      cases he

/-- The blank draft bears no word. -/
theorem sound_blank (side : Nat) : (blank side).Sound := bears_onGrid_blank side side

namespace Sound

variable {d : Draft} {word : String} {a : Anchor} {p : Placement}

/-- A commit of a word that fits adds the word to what the draft bears. -/
theorem bears_commit (h : d.Sound) (hfits : d.grid.fits word a = true)
    (hp : Placement.ofAnchor? a word.length d.grid.rows d.grid.cols = some p)
    (hroom : d.layout.size < maxOwners) :
    (d.commit word p).Bears ({ word, placement := p } :: d.layout.entries) := by
  have hsize : d.layout.entries.length = d.layout.size := Array.length_toList
  exact (Bears.claim_of_fits h hfits hp (hsize ▸ hroom)).congr rfl rfl

/-- A commit of a word that fits keeps a draft sound. -/
theorem commit (h : d.Sound) (hfits : d.grid.fits word a = true)
    (hp : Placement.ofAnchor? a word.length d.grid.rows d.grid.cols = some p)
    (hroom : d.layout.size < maxOwners) : (d.commit word p).Sound := by
  rw [Sound, layout_commit, Layout.entries_push]
  exact (h.bears_commit hfits hp hroom).perm (List.perm_append_singleton _ _).symm

/-- Taking back a word that has just been placed gives back the draft. -/
theorem undo_commit (h : d.Sound) (hfits : d.grid.fits word a = true)
    (hp : Placement.ofAnchor? a word.length d.grid.rows d.grid.cols = some p)
    (hroom : d.layout.size < maxOwners) : (d.commit word p).undo = d := by
  have hbears : ({ d.commit word p with layout := d.layout } : Draft).Bears
      ({ word, placement := p } :: d.layout.entries) :=
    (h.bears_commit hfits hp hroom).congr rfl rfl
  have hundo : (d.commit word p).undo.Bears d.layout.entries := by
    rw [undo_eq (layout_commit ..)]
    exact hbears.release
  apply Bears.eq hundo h
  · exact (shape_undo _).trans (shape_commit d word p)
  · exact layout_undo (layout_commit ..)

/-- The letters of a sound draft's grid are those of its words. -/
theorem consistent (h : d.Sound) : d.layout.Consistent d.grid where
  straight := h.straight
  letters _ he _ _ hc := h.get?_of_mem he hc
  owned q hq := by
    obtain ⟨c, hc⟩ := Grid.lit_iff.mp hq
    obtain ⟨entry, he, hmem⟩ := (h.letters q c).mp hc
    exact Layout.mem_squares.mpr
      ⟨entry, he, (PlacedWord.mem_cells_iff (h.straight entry he)).mpr ⟨c, hmem⟩⟩

/-- The words of a sound draft disagree with its grid nowhere. -/
theorem check_eq_ok (h : d.Sound) : d.layout.check d.grid = .ok () :=
  Layout.check_eq_ok_iff.mpr h.consistent

end Sound

/-! ## Fading -/

/-- A draft has faded from another one if nothing has been added to it: the layout is the same, no
square has more owners, and no square has got another letter. -/
structure Fades (e d : Draft) : Prop where
  layout : e.layout = d.layout
  shape : e.shape = d.shape
  owners : ∀ q, e.ownersAt q ≤ d.ownersAt q
  grid : ∀ q, e.grid.get? q = d.grid.get? q ∨ e.grid.get? q = some .blank

namespace Fades

theorem refl (d : Draft) : d.Fades d := ⟨rfl, rfl, fun _ => Nat.le_refl _, fun _ => Or.inl rfl⟩

theorem trans {c d e : Draft} (hc : c.Fades d) (hd : d.Fades e) : c.Fades e where
  layout := hc.layout.trans hd.layout
  shape := hc.shape.trans hd.shape
  owners q := Nat.le_trans (hc.owners q) (hd.owners q)
  grid q := by
    rcases hc.grid q with heq | hblank
    · rw [heq]
      exact hd.grid q
    · exact Or.inr hblank

/-- Whatever the counts, taking back a word that has just been placed adds nothing to the draft. -/
theorem undo_commit {d e : Draft} {word : String} {a : Anchor} {p : Placement}
    (hd : d.Counted) (hp : Placement.ofAnchor? a word.length d.grid.rows d.grid.cols = some p)
    (h : e.Fades (d.commit word p)) : e.undo.Fades d := by
  have hcells : (p.lettered word).map Prod.fst = p.cells :=
    PlacedWord.map_fst_lettered (PlacedWord.isStraight_of_ofAnchor? hp)
  obtain ⟨hnodup, hlettered⟩ := hd.squares_of_ofAnchor? hp
  have hlayout : e.layout = d.layout.push word p := h.layout.trans (layout_commit ..)
  have hshape : e.shape = d.shape := h.shape.trans (shape_commit ..)
  have hin : ∀ q ∈ p.cells, e.owners.Inside q ∧ e.grid.Inside q := by
    intro q hq
    rw [← hcells] at hq
    obtain ⟨s, hs, rfl⟩ := List.mem_map.mp hq
    rw [owners_inside_of_shape hshape, grid_inside_of_shape hshape]
    exact hlettered s hs
  have hclaimed : ∀ q, e.ownersAt q ≤ if q ∈ p.cells then d.ownersAt q + 1 else d.ownersAt q := by
    intro q
    refine Nat.le_trans (h.owners q) ?_
    rw [ownersAt_commit hnodup fun s hs => (hlettered s hs).1, hcells]
    split
    · exact Nat.min_le_left ..
    · exact Nat.le_refl _
  refine ⟨layout_undo hlayout, (shape_undo _).trans hshape, ?_, ?_⟩
  · intro q
    have hle := hclaimed q
    rw [ownersAt_undo hlayout (hcells ▸ hnodup) fun q hq => (hin q hq).1]
    by_cases hq : q ∈ p.cells
    · rw [if_pos hq] at hle ⊢
      omega
    · rw [if_neg hq] at hle ⊢
      exact hle
  · intro q
    rw [get?_grid_undo hlayout (hcells ▸ hnodup) hin]
    split
    · exact Or.inr rfl
    · next hmore =>
      -- with more than one owner left, the word did not write the square
      have hkept : (d.commit word p).grid.get? q = d.grid.get? q := by
        apply get?_grid_claimSquares_of_not hnodup hlettered
        rw [hcells]
        by_cases hq : q ∈ p.cells
        · right
          have hle := hclaimed q
          rw [if_pos hq] at hle
          have hgt : ¬ e.ownersAt q ≤ 1 := fun hle' => hmore ⟨hq, hle'⟩
          omega
        · exact Or.inl hq
      rw [← hkept]
      exact h.grid q

end Fades

end Draft

end Crossword
