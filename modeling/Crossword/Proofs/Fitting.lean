import Crossword.Proofs.SearchSteps

/-!
# Where a word fits, and where it lies

Whether a word fits at an anchor is asked letter by letter, and where it lies is worked out square
by square; the two agree (`Grid.fits_iff_exists_placement`). What is laid out is a straight run from
the anchor, and it lies on the rectangle if both of its ends do
(`Placement.isSome_ofAnchor?_succ_iff`). So a word can be laid out at every anchor that is offered
for it. The search need not know what to do where it cannot: whatever it did there, it would do the
same as it does (`placeWordsOr_eq`), since the grid keeps its size.

Main result: `Grid.fits_where_laid_out`.
-/

namespace Crossword

namespace Placement

/-- Holds of a straight run of squares from an anchor. -/
structure RunsFrom (p : Placement) (a : Anchor) (length : Nat) : Prop where
  length : p.cells.length = length
  orientation : p.orientation = a.orientation
  contiguous : p.isContiguous = true
  nodup : p.cells.Nodup
  /-- Each square lies as many steps from the anchor as there are squares before it. -/
  steps : ∀ (i : Nat) (q : Position), p.cells[i]? = some q →
    (q.row : Int) = a.rowAt i ∧ (q.col : Int) = a.colAt i

/-- What is laid out from an anchor runs from there. -/
theorem runsFrom_of_ofAnchor? {a : Anchor} {length rows cols : Nat} {p : Placement}
    (h : ofAnchor? a length rows cols = some p) : p.RunsFrom a length := by
  obtain ⟨horientation, hlength, hall⟩ := ofAnchor?_eq_some_iff.mp h
  have hrun := isContiguous_of_ofAnchor? h
  refine ⟨hlength, horientation, hrun, nodup_of_isContiguous hrun, fun i q hq => ?_⟩
  obtain ⟨hrow, hcol, -, -⟩ := Anchor.square?_eq_some_iff.mp (hall i q hq)
  exact ⟨hrow, hcol⟩

/-- A run of squares can be laid out if its first and its last square lie on the rectangle. -/
theorem isSome_ofAnchor?_succ_iff {a : Anchor} {length rows cols : Nat} :
    (ofAnchor? a (length + 1) rows cols).isSome = true ↔
      (a.square? 0 rows cols).isSome = true ∧ (a.square? length rows cols).isSome = true := by
  rw [isSome_ofAnchor?_iff]
  constructor
  · intro h
    obtain ⟨first, hfirst⟩ := h 0 (by omega)
    obtain ⟨last, hlast⟩ := h length (by omega)
    exact ⟨Option.isSome_iff_exists.mpr ⟨first, hfirst⟩, Option.isSome_iff_exists.mpr ⟨last, hlast⟩⟩
  · intro h i hi
    obtain ⟨hfirst, hlast⟩ := h
    obtain ⟨first, hfirst⟩ := Option.isSome_iff_exists.mp hfirst
    obtain ⟨last, hlast⟩ := Option.isSome_iff_exists.mp hlast
    obtain ⟨hrow, hcol, -, -⟩ := Anchor.square?_eq_some_iff.mp hfirst
    obtain ⟨hrow', hcol', hrows, hcols⟩ := Anchor.square?_eq_some_iff.mp hlast
    -- one coordinate is that of both ends, the other lies between theirs
    refine ⟨⟨(a.rowAt i).toNat, (a.colAt i).toNat⟩, Anchor.square?_eq_some_iff.mpr ?_⟩
    obtain ⟨row, col, o⟩ := a
    cases o <;>
      simp only [Anchor.rowAt, Anchor.colAt, Orientation.rowStep, Orientation.colStep] at * <;>
      omega

end Placement

namespace Grid

variable {g : Grid} {word : String} {a : Anchor} {p : Placement}

/-- Holds if each square of a placement is blank or holds the letter that a word has there. -/
def TakesOn (g : Grid) (word : String) (p : Placement) : Prop :=
  ∀ (i : Nat) (q : Position) (c : Char), p.cells[i]? = some q → word.toList[i]? = some c →
    g.get? q = some .blank ∨ g.get? q = some (.letter c)

/-- A word fits just where it can be laid out on squares that take its letters. -/
theorem fits_iff_exists_placement : g.fits word a = true ↔
    ∃ p, Placement.ofAnchor? a word.length g.rows g.cols = some p ∧ g.TakesOn word p := by
  constructor
  · intro h
    obtain ⟨p, hp⟩ := Placement.exists_of_staysInside (fits_iff_letterAt?.mp h).1
    refine ⟨p, hp, fun i q c hq hc => accepts_of_fits h hp ?_⟩
    exact List.mem_of_getElem? (List.getElem?_zip_eq_some.mpr ⟨hq, hc⟩)
  · intro h
    obtain ⟨p, hp, htakes⟩ := h
    obtain ⟨-, hlength, hall⟩ := Placement.ofAnchor?_eq_some_iff.mp hp
    refine fits_iff.mpr fun i c hc => ?_
    have hi : i < p.cells.length := by
      rw [hlength, ← String.length_toList]
      exact (List.getElem?_eq_some_iff.mp hc).1
    have hq := List.getElem?_eq_getElem hi
    rcases htakes i _ c hq hc with hblank | hletter
    · exact ⟨_, _, hall i _ hq, hblank, Cell.accepts_eq_true_iff.mpr (Or.inl rfl)⟩
    · exact ⟨_, _, hall i _ hq, hletter, Cell.accepts_eq_true_iff.mpr (Or.inr rfl)⟩

/-- Holds of a grid with a word on the squares of a placement that otherwise reads as another
grid. -/
structure Adds (e g : Grid) (word : String) (p : Placement) : Prop where
  word : ∀ (i : Nat) (q : Position) (c : Char), p.cells[i]? = some q → word.toList[i]? = some c →
    e.get? q = some (.letter c)
  others : ∀ q, q ∉ p.cells → e.get? q = g.get? q

end Grid

namespace Draft

/-- In a draft without owners no square has one. -/
theorem ownersAt_of_isClear {d : Draft} (h : d.isClear = true) (q : Position) :
    d.ownersAt q = 0 := by
  rw [ownersAt]
  cases hq : d.owners.get? q with
  | none => rfl
  | some n => exact beq_iff_eq.mp (Board.all_eq_true_iff.mp h q n hq)

/-- Claiming a word where no square has an owner writes the word, and nothing else. -/
theorem adds_claim {d : Draft} {a : Anchor} {word : String} {rows cols : Nat} {p : Placement}
    (hp : Placement.ofAnchor? a word.length rows cols = some p) (hclear : d.isClear = true)
    (hin : ∀ q ∈ p.cells, d.owners.Inside q ∧ d.grid.Inside q) :
    (d.claim word p).1.grid.Adds d.grid word p := by
  have hstraight := PlacedWord.isStraight_of_ofAnchor? hp
  have hcells : (p.lettered word).map Prod.fst = p.cells := PlacedWord.map_fst_lettered hstraight
  have hnodup : ((p.lettered word).map Prod.fst).Nodup :=
    hcells.symm ▸ PlacedWord.nodup_cells hstraight
  have hsquares : ∀ s ∈ p.lettered word, d.owners.Inside s.1 ∧ d.grid.Inside s.1 := fun s hs =>
    hin s.1 (hcells ▸ List.mem_map_of_mem hs)
  refine ⟨fun i q c hq hc => ?_, fun q hq => ?_⟩
  · have hmem : (q, c) ∈ p.lettered word :=
      List.mem_of_getElem? (List.getElem?_zip_eq_some.mpr ⟨hq, hc⟩)
    exact get?_grid_claimSquares_of_mem hnodup hsquares hmem (ownersAt_of_isClear hclear q)
  · exact get?_grid_claimSquares_of_not hnodup hsquares (Or.inl (hcells.symm ▸ hq))

end Draft

/-! ## What the search would do otherwise -/

/-- As `tryAnchors`, but where the word cannot be laid out, it is left to `skip` how to go on. -/
def tryAnchorsOr (skip : List Anchor → Walk → Outcome × Walk) (word : String)
    (next : Walk → Outcome × Walk) : List Anchor → Walk → Outcome × Walk
  | [], w => (.exhausted, w)
  | a :: rest, w =>
    match w.placement? word a with
    | none => skip rest w
    | some placement =>
      match next (w.place word placement) with
      | (.solved, w) => (.solved, w)
      | (.abandoned, w) => (.abandoned, w.takeBack)
      | (.exhausted, w) => tryAnchorsOr skip word next rest w.takeBack.countBacktrack

/-- As `placeWords`, but where a word cannot be laid out, it is left to `skip` how to go on. -/
def placeWordsOr (skip : String → List Anchor → Walk → Outcome × Walk) (budget : Budget)
    (clock : Clock) : (first : Bool) → List String → Walk → Outcome × Walk
  | _, [], w => (.solved, w)
  | first, word :: rest, w =>
    let w := w.enter
    if budget.spent clock w.statistics then
      (.abandoned, w)
    else
      let (anchors, w) := w.offer (w.anchorsFor first word)
      tryAnchorsOr (skip word) word (fun w => placeWordsOr skip budget clock false rest w) anchors w

/-- Holds of a search that leaves the grid and the counts in their size. -/
def KeepsShape (next : Walk → Outcome × Walk) : Prop :=
  ∀ w, (next w).2.draft.shape = w.draft.shape

section Search

variable {word : String} {next : Walk → Outcome × Walk}

/-- A word that is placed for a search and taken back after it leaves the sizes alone. -/
theorem KeepsShape.place (hnext : KeepsShape next) {v u : Walk} {p : Placement} {outcome : Outcome}
    (h : next (v.place word p) = (outcome, u)) : u.draft.shape = v.draft.shape := by
  have hplace := hnext (v.place word p)
  rw [h] at hplace
  exact hplace.trans (Draft.shape_commit ..)

theorem KeepsShape.tryAnchors (hnext : KeepsShape next) (anchors : List Anchor) :
    KeepsShape (tryAnchors word next anchors) := by
  induction anchors with
  | nil => exact fun w => rfl
  | cons a rest ih =>
    intro v
    cases hp : v.placement? word a with
    | none =>
      simp only [tryAnchors_cons, hp]
      exact ih v
    | some p =>
      cases h : next (v.place word p) with
      | mk outcome u =>
        have hu := hnext.place h
        have hback : u.takeBack.draft.shape = v.draft.shape := (Draft.shape_undo _).trans hu
        simp only [tryAnchors_cons, hp, h]
        cases outcome with
        | solved => exact hu
        | abandoned => exact hback
        | exhausted => exact (ih u.takeBack.countBacktrack).trans hback

/-- Where the word can be laid out at all anchors, nothing is left to `skip`. -/
theorem tryAnchorsOr_eq (skip : List Anchor → Walk → Outcome × Walk) (hnext : KeepsShape next)
    {anchors : List Anchor} {v : Walk} (hlaid : ∀ a ∈ anchors, ∃ p, v.placement? word a = some p) :
    tryAnchorsOr skip word next anchors v = tryAnchors word next anchors v := by
  induction anchors generalizing v with
  | nil => rfl
  | cons a rest ih =>
    obtain ⟨⟨p, hp⟩, hrest⟩ := List.forall_mem_cons.mp hlaid
    cases h : next (v.place word p) with
    | mk outcome u =>
      simp only [tryAnchorsOr, tryAnchors_cons, hp, h]
      cases outcome with
      | solved => rfl
      | abandoned => rfl
      | exhausted =>
        have hback : u.takeBack.countBacktrack.draft.shape = v.draft.shape :=
          (Draft.shape_undo _).trans (hnext.place h)
        refine ih fun b hb => ?_
        rw [Walk.placement?, Draft.rows_of_shape hback, Draft.cols_of_shape hback]
        exact hrest b hb

end Search

section Search

variable (budget : Budget) (clock : Clock)

theorem keepsShape_placeWords (first : Bool) (words : List String) :
    KeepsShape (placeWords budget clock first words) := by
  induction words generalizing first with
  | nil => exact fun w => rfl
  | cons word rest ih =>
    intro w
    rw [placeWords_cons]
    split
    · rfl
    · exact (ih false).tryAnchors (w.tries first word) (w.start first word)

/-- Whatever would be done where a word cannot be laid out, the search does what it does. -/
theorem placeWordsOr_eq (skip : String → List Anchor → Walk → Outcome × Walk) (first : Bool)
    (words : List String) (w : Walk) :
    placeWordsOr skip budget clock first words w = placeWords budget clock first words w := by
  induction words generalizing first w with
  | nil => rfl
  | cons word rest ih =>
    have hrest : placeWordsOr skip budget clock false rest = placeWords budget clock false rest :=
      funext (ih false)
    have hlaid : ∀ a ∈ w.tries first word, ∃ p, (w.start first word).placement? word a = some p :=
      fun a ha => Draft.exists_placement_of_mem_choices ((w.mem_tries first word).mp ha)
    rw [placeWords_cons,
      ← tryAnchorsOr_eq (skip word) (keepsShape_placeWords budget clock false rest) hlaid, ← hrest]
    rfl

end Search

/-- **A word fits where it is laid out.** A word fits at an anchor just if it can be laid out there
on squares that are blank or hold its letters. What is laid out is a straight run from the anchor,
square after square, and it can be laid out if both of its ends lie on the rectangle. At an anchor
that is offered for a word, in the centre or across a placed letter, the word can be laid out, and
claiming it there, where nothing has an owner, writes its letters on its squares and leaves all
others alone. So a search does not depend on what it would do where a word cannot be laid out. -/
theorem Grid.fits_where_laid_out :
    (∀ (g : Grid) (word : String) (a : Anchor), g.fits word a = true ↔
      ∃ p, Placement.ofAnchor? a word.length g.rows g.cols = some p ∧ g.TakesOn word p) ∧
    (∀ (a : Anchor) (length rows cols : Nat) (p : Placement),
      Placement.ofAnchor? a length rows cols = some p → p.RunsFrom a length) ∧
    (∀ (a : Anchor) (length rows cols : Nat),
      (Placement.ofAnchor? a (length + 1) rows cols).isSome = true ↔
        (a.square? 0 rows cols).isSome = true ∧ (a.square? length rows cols).isSome = true) ∧
    (∀ (g : Grid) (l : Layout) (word : String) (a : Anchor),
      a ∈ g.centreAnchors word ∨ a ∈ l.crossings g word →
      ∃ p, Placement.ofAnchor? a word.length g.rows g.cols = some p ∧
        ∀ d : Draft, d.isClear = true → g.rows ≤ d.grid.rows ∧ g.cols ≤ d.grid.cols →
          g.rows ≤ d.owners.rows ∧ g.cols ≤ d.owners.cols →
          (d.claim word p).1.grid.Adds d.grid word p) ∧
    ∀ (skip : String → List Anchor → Walk → Outcome × Walk) (budget : Budget) (clock : Clock)
      (first : Bool) (words : List String) (w : Walk),
      placeWordsOr skip budget clock first words w = placeWords budget clock first words w := by
  refine ⟨fun g word a => fits_iff_exists_placement, fun a length rows cols p h => ?_,
    fun a length rows cols => Placement.isSome_ofAnchor?_succ_iff, fun g l word a ha => ?_,
    fun skip budget clock first words w => placeWordsOr_eq budget clock skip first words w⟩
  · exact Placement.runsFrom_of_ofAnchor? h
  · have hfits : g.fits word a = true :=
      ha.elim (fun ha => (List.mem_filter.mp ha).2) fun ha => (Layout.mem_crossings.mp ha).2
    obtain ⟨p, hp, -⟩ := fits_iff_exists_placement.mp hfits
    refine ⟨p, hp, fun d hclear hgrid howners => Draft.adds_claim hp hclear fun q hq => ?_⟩
    obtain ⟨hrow, hcol⟩ := Placement.inside_of_ofAnchor? hp hq
    exact ⟨⟨by omega, by omega⟩, by omega, by omega⟩

/-- A word in the centre of a blank grid. -/
theorem Grid.fits_where_laid_out_in_the_centre :
    let d := Draft.onGrid (Grid.blank 4 5) 4 5
    let a : Anchor := ⟨2, 1, .across⟩
    ∃ p, Placement.ofAnchor? a 3 4 5 = some p ∧ p.RunsFrom a 3 ∧
      (d.claim "CAT" p).1.grid.Adds d.grid "CAT" p := by
  intro d a
  obtain ⟨-, hruns, -, hoffered, -⟩ := fits_where_laid_out
  have ha : a ∈ (Grid.blank 4 5).centreAnchors "CAT" := by
    subst a
    decide +kernel
  have hclear : d.isClear = true := by
    subst d
    decide +kernel
  obtain ⟨p, hp, hadds⟩ := hoffered (Grid.blank 4 5) .empty "CAT" a (Or.inl ha)
  have hsize : 4 ≤ 4 ∧ 5 ≤ 5 := by decide
  exact ⟨p, hp, hruns a 3 4 5 p hp, hadds d hclear hsize hsize⟩

end Crossword
