import Mathlib
import Crossword.Proofs.Consistency

/-!
# Crossings

The anchors that the search finds for a word are read off the letters of the words placed so far. On
a grid with these letters and no other they are just the anchors at which the word can be written
over a letter of the grid, and none is found twice (`Layout.crossings_of_check`).
-/

namespace Crossword

/-- An anchor lies as many steps before a square as there are letters between them. -/
theorem eq_anchorThrough {a : Anchor} {q : Position} {i : Nat} (hr : (q.row : Int) = a.rowAt i)
    (hc : (q.col : Int) = a.colAt i) : a = anchorThrough q i a.orientation := by
  obtain ⟨row, col, o⟩ := a
  cases o with
  | across =>
    simp only [Anchor.rowAt, Anchor.colAt, Orientation.rowStep, Orientation.colStep] at hr hc
    simp only [anchorThrough, Anchor.mk.injEq, and_true]
    omega
  | down =>
    simp only [Anchor.rowAt, Anchor.colAt, Orientation.rowStep, Orientation.colStep] at hr hc
    simp only [anchorThrough, Anchor.mk.injEq, and_true]
    omega

/-- A word that begins as many steps before a square as there are letters before one of its letters
puts that letter on the square. -/
theorem letterAt?_anchorThrough {word : String} {q : Position} {i : Nat} {c : Char}
    (hi : word.toList[i]? = some c) (o : Orientation) :
    (anchorThrough q i o).letterAt? word q = some c := by
  refine Anchor.letterAt?_eq_some_iff.mpr ⟨i, hi, ?_⟩
  cases o with
  | across =>
    simp only [anchorThrough, Anchor.rowAt, Anchor.colAt, Orientation.rowStep, Orientation.colStep]
    omega
  | down =>
    simp only [anchorThrough, Anchor.rowAt, Anchor.colAt, Orientation.rowStep, Orientation.colStep]
    omega

namespace Layout

variable {l : Layout} {g : Grid} {word : String} {a : Anchor}

/-- An anchor is found for a word that fits there if it puts one of the word's letters where a
placed word has the same letter. -/
theorem mem_crossings_iff_letterAt? : a ∈ l.crossings g word ↔ g.fits word a = true ∧
    ∃ entry ∈ l.entries, ∃ q c, (q, c) ∈ entry.lettered ∧ a.letterAt? word q = some c := by
  rw [mem_crossings, and_comm]
  refine and_congr_right fun _ => ⟨fun h => ?_, fun h => ?_⟩
  · obtain ⟨entry, he, q, c, i, o, hq, hi, rfl⟩ := h
    exact ⟨entry, he, q, c, hq, letterAt?_anchorThrough hi o⟩
  · obtain ⟨entry, he, q, c, hq, hc⟩ := h
    obtain ⟨i, hi, hrow, hcol⟩ := Anchor.letterAt?_eq_some_iff.mp hc
    exact ⟨entry, he, q, c, i, a.orientation, hq, hi, eq_anchorThrough hrow hcol⟩

/-- Where a word fits, it puts an equal letter on each letter that it meets. -/
theorem letterAt?_of_fits {i : Nat} {q : Position} {c : Char} (hfits : g.fits word a = true)
    (hi : i < word.length) (hsquare : a.square? i g.rows g.cols = some q)
    (hc : g.get? q = some (.letter c)) : a.letterAt? word q = some c := by
  obtain ⟨hrow, hcol, -, -⟩ := Anchor.square?_eq_some_iff.mp hsquare
  rw [← String.length_toList] at hi
  have hput : a.letterAt? word q = some (word.toList.get ⟨i, hi⟩) :=
    Anchor.letterAt?_eq_some_iff.mpr ⟨i, List.getElem?_eq_getElem hi, hrow, hcol⟩
  rw [hput, (Grid.fits_iff_letterAt?.mp hfits).2 q _ c hput hc]

/-- **Every legal crossing is found, once.** If a layout agrees with a grid, an anchor is found for
a word just if the word fits there and one of its squares holds a letter already, and no anchor is
found twice. -/
theorem crossings_of_check (h : l.check g = .ok ()) (word : String) :
    (∀ a, a ∈ l.crossings g word ↔ g.fits word a = true ∧
      ∃ i < word.length, ∃ q, a.square? (i : Nat) g.rows g.cols = some q ∧ g.lit q = true) ∧
    (l.crossings g word).Nodup := by
  have hlayout := check_eq_ok_iff.mp h
  refine ⟨fun a => ?_, nodup_crossings l g word⟩
  rw [mem_crossings_iff_letterAt?]
  refine and_congr_right fun hfits => ⟨fun hmeets => ?_, fun hmeets => ?_⟩
  · obtain ⟨entry, he, q, c, hq, hc⟩ := hmeets
    obtain ⟨hrows, hcols⟩ := (Grid.fits_iff_letterAt?.mp hfits).1.inside hc
    obtain ⟨i, hi, hrow, hcol⟩ := Anchor.letterAt?_eq_some_iff.mp hc
    have hlt : i < word.length :=
      String.length_toList ▸ (List.getElem?_eq_some_iff.mp hi).1
    exact ⟨i, hlt, q, Anchor.square?_eq_some_iff.mpr ⟨hrow, hcol, hrows, hcols⟩,
      Grid.lit_iff.mpr ⟨c, hlayout.letters entry he q c hq⟩⟩
  · obtain ⟨i, hi, q, hsquare, hlit⟩ := hmeets
    obtain ⟨c, hc⟩ := Grid.lit_iff.mp hlit
    -- the letter on the square is one of a placed word
    obtain ⟨entry, he, hq⟩ := hlayout.get?_eq_letter_iff.mp hc
    exact ⟨entry, he, q, c, hq, letterAt?_of_fits hfits hi hsquare hc⟩

/-- Over "CAT" in the middle of a small grid, "TAT" can be written down through the T with either of
its ends and through the A, and at no other anchor: across it would change the C. -/
theorem crossings_of_cat :
    let l := empty.push "CAT" ⟨[⟨2, 1⟩, ⟨2, 2⟩, ⟨2, 3⟩], .across⟩
    let g := (Grid.ofLines? [".....", ".....", ".CAT.", ".....", "....."]).getD (Grid.blank 0 0)
    l.check g = .ok () ∧
    (∀ a, a ∈ l.crossings g "TAT" ↔ g.fits "TAT" a = true ∧
      ∃ i < "TAT".length, ∃ q, a.square? (i : Nat) g.rows g.cols = some q ∧ g.lit q = true) ∧
    (l.crossings g "TAT").Nodup ∧
    l.crossings g "TAT" = [⟨1, 2, .down⟩, ⟨2, 3, .down⟩, ⟨0, 3, .down⟩] := by
  intro l g
  have hcheck : l.check g = .ok () := by
    subst l g
    cbv
  have hlist : l.crossings g "TAT" = [⟨1, 2, .down⟩, ⟨2, 3, .down⟩, ⟨0, 3, .down⟩] := by
    subst l g
    cbv
  obtain ⟨hmem, hnodup⟩ := crossings_of_check hcheck "TAT"
  exact ⟨hcheck, hmem, hnodup, hlist⟩

end Layout

end Crossword
