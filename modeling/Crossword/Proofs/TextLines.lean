import Crossword.Text.Blank
import Crossword.Text.Lines
import Mathlib.Data.List.DropRight

/-!
# Lines and the white space around them

What it takes to read a text that is put together from parts. A line end parts the lines before it
from those after it (`Text.lines_append`), and a text without line ends is one line. Trimming a line
leaves what stands between the white space at its ends (`Text.trim_padded`), which neither begins
nor ends with white space (`Text.unpadded_trim`).
-/

namespace Crossword

namespace Text

/-! ## Lines of a text -/

theorem lines_eq_splitOn (cs : List Char) : lines cs = cs.splitOn '\n' := by
  induction cs with
  | nil => rfl
  | cons c rest ih =>
    rw [lines, List.splitOn_cons_eq_if_modifyHead, ih]
    by_cases hend : c = '\n'
    · rw [if_pos hend, if_pos (beq_iff_eq.mpr hend)]
    · rw [if_neg hend, if_neg (mt beq_iff_eq.mp hend)]
      cases hsplit : rest.splitOn '\n' with
      | nil => exact absurd hsplit (List.splitOn_ne_nil '\n' rest)
      | cons line others => rfl

/-- A line end parts the lines before it from those after it. -/
theorem lines_append (before after : List Char) :
    lines (before ++ '\n' :: after) = lines before ++ lines after := by
  rw [lines_eq_splitOn, lines_eq_splitOn, lines_eq_splitOn, List.splitOn_append_cons_self]

theorem toList_append_newline (s t : String) :
    (s ++ "\n" ++ t).toList = s.toList ++ '\n' :: t.toList := by
  simp

theorem linesOf_append (s t : String) : linesOf (s ++ "\n" ++ t) = linesOf s ++ linesOf t := by
  unfold linesOf
  rw [toList_append_newline, lines_append, List.map_append]

/-- Lines with line ends between them are the lines of that text. -/
theorem linesOf_intercalate {ls : List String} (hne : ls ≠ [])
    (h : ∀ l ∈ ls, '\n' ∉ l.toList) : linesOf ("\n".intercalate ls) = ls := by
  have hnewline : "\n".toList = ['\n'] := by decide
  have hlines : ∀ cs ∈ ls.map String.toList, '\n' ∉ cs := by
    intro cs hcs
    obtain ⟨l, hl, rfl⟩ := List.mem_map.mp hcs
    exact h l hl
  unfold linesOf
  rw [String.toList_intercalate, hnewline, lines_eq_splitOn,
    List.splitOn_intercalate '\n' hlines (mt List.map_eq_nil_iff.mp hne), List.map_map]
  simp [Function.comp_def]

/-- A text without line ends is one line. -/
theorem lines_of_not_mem {cs : List Char} (h : '\n' ∉ cs) : lines cs = [cs] := by
  induction cs with
  | nil => rfl
  | cons c rest ih =>
    obtain ⟨hc, hrest⟩ := List.ne_and_not_mem_of_not_mem_cons h
    simp [lines, hc.symm, ih hrest]

/-- No line has a line end on it. -/
theorem newline_not_mem_of_mem_lines {cs line : List Char} (h : line ∈ lines cs) : '\n' ∉ line := by
  induction cs generalizing line with
  | nil =>
    obtain rfl : line = [] := List.mem_singleton.mp h
    exact List.not_mem_nil
  | cons c rest ih =>
    rw [lines] at h
    split at h
    · rcases List.mem_cons.mp h with rfl | h
      · exact List.not_mem_nil
      · exact ih h
    · next hc =>
      split at h
      · obtain rfl : line = [c] := List.mem_singleton.mp h
        exact fun hmem => hc (List.mem_singleton.mp hmem).symm
      · next first others hrest =>
        rcases List.mem_cons.mp h with rfl | h
        · -- the line that `c` is put in front of
          have hfirst := ih (hrest ▸ List.mem_cons_self ..)
          exact fun hmem => (List.mem_cons.mp hmem).elim (fun heq => hc heq.symm) hfirst
        · exact ih (hrest ▸ List.mem_cons_of_mem _ h)

/-! ## White space around a line -/

/-- Holds of characters of which neither the first nor the last is white space. -/
structure Unpadded (cs : List Char) : Prop where
  first : ∀ c ∈ cs.head?, isBlank c = false
  last : ∀ c ∈ cs.getLast?, isBlank c = false

theorem all_not_isBlank_iff (o : Option Char) :
    o.all (!isBlank ·) = true ↔ ∀ c ∈ o, isBlank c = false := by
  cases o <;> simp

-- by `Option.all`, since what holds of every character of a text can also be decided by going
-- through all characters that there are
instance (cs : List Char) : Decidable (Unpadded cs) :=
  decidable_of_iff (cs.head?.all (!isBlank ·) = true ∧ cs.getLast?.all (!isBlank ·) = true)
    ⟨fun h => ⟨(all_not_isBlank_iff _).mp h.1, (all_not_isBlank_iff _).mp h.2⟩,
      fun h => ⟨(all_not_isBlank_iff _).mpr h.first, (all_not_isBlank_iff _).mpr h.last⟩⟩

/-- White space in front of something else is all that is dropped. -/
theorem dropWhile_isBlank_append {pad cs : List Char} (hpad : ∀ c ∈ pad, isBlank c = true)
    (hfirst : ∀ c ∈ cs.head?, isBlank c = false) :
    (pad ++ cs).dropWhile isBlank = cs := by
  rw [List.dropWhile_append_of_pos hpad]
  cases cs with
  | nil => rfl
  | cons c rest => exact List.dropWhile_cons_of_neg (Bool.eq_false_iff.mp (hfirst c rfl))

/-- Trimming takes away white space on both sides. -/
theorem trim_padded {before cs after : List Char} (hbefore : ∀ c ∈ before, isBlank c = true)
    (hafter : ∀ c ∈ after, isBlank c = true) (hne : cs ≠ []) (hcs : Unpadded cs) :
    trim (before ++ cs ++ after) = cs := by
  have hfirst : ∀ c ∈ (cs ++ after).head?, isBlank c = false := by
    intro c hc
    rw [List.head?_append_of_ne_nil _ hne] at hc
    exact hcs.first c hc
  have hlast : ∀ c ∈ cs.reverse.head?, isBlank c = false := by
    intro c hc
    rw [List.head?_reverse] at hc
    exact hcs.last c hc
  have hafter' : ∀ c ∈ after.reverse, isBlank c = true := fun c hc =>
    hafter c (List.mem_reverse.mp hc)
  rw [trim, List.append_assoc, dropWhile_isBlank_append hbefore hfirst, List.reverse_append,
    dropWhile_isBlank_append hafter' hlast, List.reverse_reverse]

/-- Of white space nothing is left. -/
theorem trim_of_blank {cs : List Char} (h : ∀ c ∈ cs, isBlank c = true) : trim cs = [] := by
  rw [trim, List.dropWhile_eq_nil_iff.mpr h]
  rfl

theorem trim_begins_dropWhile (cs : List Char) : trim cs <+: cs.dropWhile isBlank :=
  List.rdropWhile_prefix ..

/-- What is left has no white space at its ends. -/
theorem unpadded_trim (cs : List Char) : Unpadded (trim cs) where
  first c hc := by
    obtain ⟨rest, hrest⟩ := trim_begins_dropWhile cs
    have hhead := List.head?_dropWhile_not isBlank cs
    rw [← hrest, List.head?_append, hc] at hhead
    exact hhead
  last c hc := by
    have hne : trim cs ≠ [] := by
      intro hnil
      rw [hnil] at hc
      cases hc
    have hlast := List.rdropWhile_last_not isBlank (cs.dropWhile isBlank) hne
    rw [List.getLast?_eq_some_getLast hne] at hc
    rw [← Option.mem_some.mp hc]
    exact Bool.eq_false_iff.mpr hlast

theorem mem_of_mem_trim {cs : List Char} {c : Char} (h : c ∈ trim cs) : c ∈ cs :=
  (List.dropWhile_sublist isBlank).subset ((trim_begins_dropWhile cs).subset h)

end Text

end Crossword
