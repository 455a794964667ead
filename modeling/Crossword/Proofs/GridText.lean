import Crossword.Grid
import Crossword.Proofs.TextLines

/-!
# Grids as text

A grid is printed with a line for each row and read back from its lines. What a grid that is read
from lines looks like is said square by square (`Grid.ofLines?_eq_some_iff`), and so is what is
printed (`Grid.charAt?_lines`). The lines that a grid is read from are therefore those that are
printed for it (`Grid.lines_of_ofLines?`), and a printed grid can be read back, unless a letter
looks like a blank (`Grid.ofLines?_lines`) or ends the line (`Grid.linesOf_toText`).

Main result: `Grid.text_reads_back`.
-/

namespace Crossword

namespace Grid

variable {g : Grid} {rows : List String}

/-! ## Reading a grid -/

/-- The character at a place of some lines. -/
def charAt? (rows : List String) (p : Position) : Option Char :=
  rows[p.row]?.bind fun row => row.toList[p.col]?

/-- The width that lines must have to be a grid: that of the first one. -/
def widthOf (rows : List String) : Nat := (rows.head?.map String.length).getD 0

/-- Lines of one width have characters on a rectangle. -/
theorem isSome_charAt?_iff {cols : Nat} (h : ∀ row ∈ rows, row.length = cols) {p : Position} :
    (charAt? rows p).isSome = true ↔ p.row < rows.length ∧ p.col < cols := by
  unfold charAt?
  cases hrow : rows[p.row]? with
  | none =>
    have hle := List.getElem?_eq_none_iff.mp hrow
    refine iff_of_false (by simp) fun hin => ?_
    omega
  | some row =>
    have hlt := (List.getElem?_eq_some_iff.mp hrow).1
    have hlength : row.toList.length = cols :=
      String.length_toList.trans (h row (List.mem_of_getElem? hrow))
    simp [hlt, hlength]

/-- The grid of some lines, if they have one width. -/
def ofRows (rows : List String) : Grid :=
  Board.tabulate rows.length (widthOf rows) fun p =>
    ((charAt? rows p).map Cell.ofChar).getD .blank

theorem get?_ofRows (h : ∀ row ∈ rows, row.length = widthOf rows) (p : Position) :
    (ofRows rows).get? p = (charAt? rows p).map Cell.ofChar := by
  have hin : (charAt? rows p).isSome = true ↔ _ := isSome_charAt?_iff h
  unfold ofRows
  rw [Board.get?_tabulate]
  cases hc : charAt? rows p with
  | none =>
    rw [hc] at hin
    rw [if_neg fun h => Bool.noConfusion (hin.mpr h)]
    rfl
  | some c =>
    rw [hc] at hin
    rw [if_pos (hin.mp rfl)]
    rfl

/-- Lines are read as a grid if they have one width. -/
theorem ofLines?_eq (rows : List String) : ofLines? rows =
    if ∀ row ∈ rows, row.length = widthOf rows then some (ofRows rows) else none := by
  have hchar : ∀ p : Position, ((rows.toArray.map fun row => row.toList.toArray)[p.row]?.bind
      fun row => row[p.col]?) = charAt? rows p := by
    intro p
    unfold charAt?
    cases hrow : rows[p.row]? <;> simp [hrow]
  simp only [ofLines?, hchar, List.all_eq_true, decide_eq_true_eq]
  rfl

/-- A grid is read from lines of one width, character by character. -/
theorem ofLines?_eq_some_iff : ofLines? rows = some g ↔
    (g.rows = rows.length ∧ g.cols = widthOf rows ∧ ∀ row ∈ rows, row.length = g.cols) ∧
      ∀ p, g.get? p = (charAt? rows p).map Cell.ofChar := by
  rw [ofLines?_eq]
  constructor
  · intro h
    split at h
    · next hwidth =>
      obtain rfl := Option.some.inj h
      exact ⟨⟨rfl, rfl, hwidth⟩, get?_ofRows hwidth⟩
    · cases h
  · intro h
    obtain ⟨⟨hrows, hcols, hwidth⟩, hget⟩ := h
    rw [hcols] at hwidth
    rw [if_pos hwidth, Option.some.injEq]
    exact Board.ext_get? hrows.symm hcols.symm fun p =>
      (get?_ofRows hwidth p).trans (hget p).symm

/-! ## Printing a grid -/

theorem length_lines (g : Grid) : g.lines.length = g.rows := by
  rw [lines, List.length_map, List.length_range]

theorem lines_ne_nil (hrows : 0 < g.rows) : g.lines ≠ [] := by
  rw [← List.length_pos_iff, length_lines]
  exact hrows

/-- What is printed for a square. -/
theorem charAt?_lines (p : Position) :
    charAt? g.lines p = (g.get? p).map Cell.toChar := by
  obtain ⟨row, col⟩ := p
  unfold charAt? lines line
  by_cases hrow : row < g.rows
  · by_cases hcol : col < g.cols
    · obtain ⟨s, hs⟩ := Option.isSome_iff_exists.mp
        (Board.isSome_get?_iff.mpr (show g.Inside ⟨row, col⟩ from ⟨hrow, hcol⟩))
      simp [hrow, hcol, cellAt, hs]
    · have hnone : g.get? ⟨row, col⟩ = none :=
        Board.get?_eq_none_iff.mpr fun hin => hcol hin.2
      simp [hrow, hcol, hnone]
  · have hnone : g.get? ⟨row, col⟩ = none :=
      Board.get?_eq_none_iff.mpr fun hin => hrow hin.1
    simp [hrow, hnone]

/-- A printed grid is read back, unless a letter looks like a blank. -/
theorem ofLines?_lines (hrows : 0 < g.rows)
    (h : ∀ p, g.get? p ≠ some (.letter Cell.blankMark)) : ofLines? g.lines = some g := by
  have hwidth : ∀ row ∈ g.lines, row.length = g.cols := by
    intro row hrow
    obtain ⟨r, -, rfl⟩ := List.mem_map.mp hrow
    simp [line]
  refine ofLines?_eq_some_iff.mpr ⟨⟨(length_lines g).symm, ?_, hwidth⟩, fun p => ?_⟩
  · cases hlines : g.lines with
    | nil => exact absurd hlines (lines_ne_nil hrows)
    | cons row rest => exact (hwidth row (hlines ▸ List.mem_cons_self ..)).symm
  · rw [charAt?_lines, Option.map_map]
    cases hp : g.get? p with
    | none => rfl
    | some s =>
      have hs : s ≠ .letter Cell.blankMark := fun heq => h p (heq ▸ hp)
      exact congrArg some (Cell.ofChar_toChar hs).symm

/-- The lines of a printed grid are its rows, unless a letter ends the line. -/
theorem linesOf_toText (hrows : 0 < g.rows) (h : ∀ p, g.get? p ≠ some (.letter '\n')) :
    Text.linesOf g.toText = g.lines := by
  refine Text.linesOf_intercalate (lines_ne_nil hrows) fun l hl hmem => ?_
  -- a line end in a row is printed for some square, and no blank looks like one
  obtain ⟨r, hr⟩ := List.mem_iff_getElem?.mp hl
  obtain ⟨c, hc⟩ := List.mem_iff_getElem?.mp hmem
  have hchar : charAt? g.lines ⟨r, c⟩ = some '\n' := by
    rw [charAt?, hr, Option.bind_some, hc]
  rw [charAt?_lines, Option.map_eq_some_iff] at hchar
  obtain ⟨s, hs, hprinted⟩ := hchar
  cases s with
  | blank => cases hprinted
  | letter d => exact h ⟨r, c⟩ (hprinted ▸ hs)

/-! ## There and back -/

/-- Lines are read as a grid just if no two of them differ in width. -/
theorem exists_ofLines?_iff :
    (∃ g, ofLines? rows = some g) ↔ ∀ v ∈ rows, ∀ w ∈ rows, v.length = w.length := by
  have hwidth : (∃ g, ofLines? rows = some g) ↔ ∀ row ∈ rows, row.length = widthOf rows := by
    rw [ofLines?_eq]
    split
    · next h => exact iff_of_true ⟨_, rfl⟩ h
    · next h => exact iff_of_false (by simp) h
  rw [hwidth]
  refine ⟨fun h v hv w hw => (h v hv).trans (h w hw).symm, fun h row hrow => ?_⟩
  cases rows with
  | nil => cases hrow
  | cons first rest => exact h row hrow first (List.mem_cons_self ..)

/-- As many lines with the same characters at the same places are the same lines. -/
theorem eq_of_charAt?_eq {others : List String} (hlength : rows.length = others.length)
    (h : ∀ p, charAt? rows p = charAt? others p) : rows = others := by
  refine List.ext_getElem hlength fun r hr hr' => String.ext (List.ext_getElem? fun c => ?_)
  have hchar := h ⟨r, c⟩
  unfold charAt? at hchar
  rwa [List.getElem?_eq_getElem hr, List.getElem?_eq_getElem hr'] at hchar

/-- What is printed for a grid are the lines from which it was read. -/
theorem lines_of_ofLines? (h : ofLines? rows = some g) : g.lines = rows := by
  obtain ⟨⟨hrows, -, -⟩, hget⟩ := ofLines?_eq_some_iff.mp h
  refine eq_of_charAt?_eq ((length_lines g).trans hrows) fun p => ?_
  rw [charAt?_lines, hget, Option.map_map]
  have hback : Cell.toChar ∘ Cell.ofChar = id := funext Cell.toChar_ofChar
  rw [hback, Option.map_id, id]

theorem rowText?_eq (g : Grid) (row : Nat) : g.rowText? row = g.lines[row]? := by
  unfold rowText? lines
  by_cases hrow : row < g.rows
  · simp [hrow]
  · simp [hrow]

/-- **Grids and their text.** Lines are read as a grid just if all of them have the same number of
characters. The grid has a row for each line, and what is printed for it is the line again; its text
are the lines, with line ends between them. The other way round, a grid with a row is read back from
its text, unless a letter on it looks like a blank or ends the line. -/
theorem text_reads_back :
    (∀ rows : List String,
      ((∃ g, ofLines? rows = some g) ↔ ∀ v ∈ rows, ∀ w ∈ rows, v.length = w.length) ∧
      ∀ g, ofLines? rows = some g →
        (g.rows = rows.length ∧ ∀ row ∈ rows, row.length = g.cols) ∧
        (∀ i, g.rowText? i = rows[i]?) ∧ g.toText = "\n".intercalate rows) ∧
    ∀ g : Grid, 0 < g.rows → (∀ p, g.get? p ≠ some (.letter '.')) →
      (∀ p, g.get? p ≠ some (.letter '\n')) → ofLines? (Text.linesOf g.toText) = some g := by
  refine ⟨fun rows => ⟨exists_ofLines?_iff, fun g h => ?_⟩, fun g hrows hmark hend => ?_⟩
  · obtain ⟨⟨hrows, -, hwidth⟩, -⟩ := ofLines?_eq_some_iff.mp h
    have hlines := lines_of_ofLines? h
    refine ⟨⟨hrows, hwidth⟩, fun i => ?_, ?_⟩
    · rw [rowText?_eq, hlines]
    · rw [toText, hlines]
  · rw [linesOf_toText hrows hend, ofLines?_lines hrows hmark]

/-- Two rows, the one with a letter and the other without, and three rows without columns. -/
theorem text_reads_back_of_two_rows :
    (∃ g, ofLines? ["É.", ".."] = some g ∧ g.toText = "É.\n..") ∧
      ofLines? (Text.linesOf (blank 3 0).toText) = some (blank 3 0) := by
  obtain ⟨hread, hback⟩ := text_reads_back
  have hblank : ∀ p c, (blank 3 0).get? p ≠ some (.letter c) := by
    intro p c hp
    have hlit := lit_iff.mpr ⟨c, hp⟩
    rw [lit_blank] at hlit
    cases hlit
  obtain ⟨hsome, htext⟩ := hread ["É.", ".."]
  obtain ⟨g, hg⟩ := hsome.mpr (by decide)
  exact ⟨⟨g, hg, (htext g hg).2.2⟩,
    hback (blank 3 0) (by decide) (fun p => hblank p '.') fun p => hblank p '\n'⟩

end Grid

end Crossword
