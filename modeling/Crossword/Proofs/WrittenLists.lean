import Crossword.ListText
import Crossword.Proofs.TextLines

/-!
# Lists as they are written

A list is written down line by line: a line has at most one entry on it and white space around it,
and ends in one of two ways or not at all (`ListText.Writes`). What is read from a text that is put
together from two others is read from the one and then from the other, as long as no line of the
first ends the list (`ListText.parse_append`); so a written list is read back entry by entry.

Main result: `ListText.parses_what_is_written`.
-/

namespace Crossword

namespace ListText

/-- Holds of what can be an entry of a list. -/
structure Clean (entry : String) : Prop where
  nonempty : entry ≠ ""
  unpadded : Text.Unpadded entry.toList
  oneLine : '\n' ∉ entry.toList
  ne_terminator : entry ≠ terminator

instance (entry : String) : Decidable (Clean entry) :=
  decidable_of_iff
    (entry ≠ "" ∧ Text.Unpadded entry.toList ∧ '\n' ∉ entry.toList ∧ entry ≠ terminator)
    ⟨fun h => ⟨h.1, h.2.1, h.2.2.1, h.2.2.2⟩,
      fun h => ⟨h.nonempty, h.unpadded, h.oneLine, h.ne_terminator⟩⟩

/-- Holds of a text with a line that ends the list. -/
def Terminated (text : String) : Prop :=
  ∃ line ∈ Text.lines text.toList, Text.trim line = terminator.toList

/-- Holds of white space without line ends. -/
def Padding (pad : String) : Prop := ∀ c ∈ pad.toList, Text.isBlank c = true ∧ c ≠ '\n'

instance (pad : String) : Decidable (Padding pad) :=
  decidable_of_iff (pad.toList.all fun c => Text.isBlank c && c ≠ '\n') (by simp [Padding])

/-- How a line is written, with the entries on it. -/
inductive Line : String → List String → Prop
  | blank {pad : String} (hpad : Padding pad) : Line pad []
  | entry {before entry after : String} (hbefore : Padding before) (hafter : Padding after) :
      Line (before ++ entry ++ after) [entry]

/-- How a list is written: line after line, the last of them without its end. -/
inductive Writes : String → List String → Prop
  | last {line : String} {entries : List String} (h : Line line entries) : Writes line entries
  | more {line lineEnd text : String} {entries later : List String} (h : Line line entries)
      (hend : lineEnd = "\n" ∨ lineEnd = "\r\n") (hrest : Writes text later) :
      Writes (line ++ lineEnd ++ text) (entries ++ later)

/-! ## Texts put together -/

theorem entries_append_of_not_mem {before : List (List Char)} (h : terminator.toList ∉ before)
    (after : List (List Char)) : entries (before ++ after) = entries before ++ entries after := by
  have hall : ∀ line ∈ before, decide (line ≠ terminator.toList) = true := fun line hline =>
    decide_eq_true fun heq => h (heq ▸ hline)
  unfold entries
  rw [List.takeWhile_append_of_pos hall, List.filter_append, List.takeWhile_eq_self_iff.mpr hall]

theorem entries_append_of_mem {before : List (List Char)} (h : terminator.toList ∈ before)
    (after : List (List Char)) : entries (before ++ after) = entries before := by
  unfold entries
  rw [List.takeWhile_append, if_neg]
  intro hlength
  -- nothing is cut off only where no line ends the list
  have hself := (List.takeWhile_prefix _).eq_of_length hlength
  exact of_decide_eq_true (List.takeWhile_eq_self_iff.mp hself _ h) rfl

theorem terminated_iff {text : String} :
    Terminated text ↔ terminator.toList ∈ (Text.lines text.toList).map Text.trim :=
  List.mem_map.symm

theorem parse_append_eq (s t : String) :
    parse (s ++ "\n" ++ t) = (entries ((Text.lines s.toList).map Text.trim ++
      (Text.lines t.toList).map Text.trim)).map String.ofList := by
  unfold parse
  rw [Text.toList_append_newline, Text.lines_append, List.map_append]

/-- What is read after a line end does not depend on what is before it, unless that ends the list.
-/
theorem parse_append {s : String} (h : ¬ Terminated s) (t : String) :
    parse (s ++ "\n" ++ t) = parse s ++ parse t := by
  rw [parse_append_eq, entries_append_of_not_mem (mt terminated_iff.mpr h), List.map_append]
  rfl

/-- Once a list has ended, nothing more is read. -/
theorem parse_append_of_terminated {s : String} (h : Terminated s) (t : String) :
    parse (s ++ "\n" ++ t) = parse s := by
  rw [parse_append_eq, entries_append_of_mem (terminated_iff.mp h)]
  rfl

/-! ## What is read -/

/-- Every entry that is read is clean. -/
theorem clean_of_mem_parse {text entry : String} (h : entry ∈ parse text) : Clean entry := by
  obtain ⟨cs, hcs, rfl⟩ := List.mem_map.mp h
  obtain ⟨htaken, hne⟩ := List.mem_filter.mp hcs
  obtain ⟨line, hline, rfl⟩ := List.mem_map.mp ((List.takeWhile_prefix _).subset htaken)
  have hterminator : Text.trim line ≠ terminator.toList := by
    have hgoes := List.mem_takeWhile_imp htaken
    exact of_decide_eq_true hgoes
  refine ⟨?_, ?_, ?_, ?_⟩
  · exact mt String.ofList_eq_empty_iff.mp (of_decide_eq_true hne)
  · rw [String.toList_ofList]
    exact Text.unpadded_trim line
  · rw [String.toList_ofList]
    exact fun hmem => Text.newline_not_mem_of_mem_lines hline (Text.mem_of_mem_trim hmem)
  · intro heq
    exact hterminator (by rw [← heq, String.toList_ofList])

theorem Padding.isBlank {pad : String} (h : Padding pad) :
    ∀ c ∈ pad.toList, Text.isBlank c = true :=
  fun c hc => (h c hc).1

/-- A return at the end of a line is white space. -/
theorem Line.append_return {line : String} {entries : List String} (h : Line line entries) :
    Line (line ++ "\r") entries := by
  have hreturn : ∀ {pad : String}, Padding pad → Padding (pad ++ "\r") := by
    intro pad hpad c hc
    rw [String.toList_append, List.mem_append] at hc
    rcases hc with hc | hc
    · exact hpad c hc
    · obtain rfl : c = '\r' := List.mem_singleton.mp hc
      decide
  cases h with
  | blank hpad => exact .blank (hreturn hpad)
  | entry hbefore hafter =>
    rw [String.append_assoc]
    exact .entry hbefore (hreturn hafter)

/-- What is read from a single line is what is left when it is trimmed. -/
theorem parse_of_oneLine {line : String} (h : '\n' ∉ line.toList) :
    parse line = (entries [Text.trim line.toList]).map String.ofList ∧
      (Terminated line ↔ Text.trim line.toList = terminator.toList) := by
  unfold parse Terminated
  rw [Text.lines_of_not_mem h]
  simp

/-- From a written line its entry is read, and it does not end the list. -/
theorem Line.parse_eq {line : String} {entries : List String} (h : Line line entries)
    (hclean : ∀ entry ∈ entries, Clean entry) : parse line = entries ∧ ¬ Terminated line := by
  cases h with
  | blank hpad =>
    obtain ⟨hparse, hends⟩ := parse_of_oneLine fun hmem => (hpad _ hmem).2 rfl
    rw [Text.trim_of_blank hpad.isBlank] at hparse hends
    exact ⟨hparse, mt hends.mp (by decide)⟩
  | @entry before entry after hbefore hafter =>
    have hentry := hclean entry (List.mem_singleton_self _)
    have htext : (before ++ entry ++ after).toList =
        before.toList ++ entry.toList ++ after.toList := by simp
    have hline : '\n' ∉ (before ++ entry ++ after).toList := by
      rw [htext, List.mem_append, List.mem_append, not_or, not_or]
      exact ⟨⟨fun hmem => (hbefore _ hmem).2 rfl, hentry.oneLine⟩,
        fun hmem => (hafter _ hmem).2 rfl⟩
    have hne : entry.toList ≠ [] := mt String.toList_eq_nil_iff.mp hentry.nonempty
    have hterminator : entry.toList ≠ terminator.toList :=
      mt String.toList_inj.mp hentry.ne_terminator
    obtain ⟨hparse, hends⟩ := parse_of_oneLine hline
    rw [htext, Text.trim_padded hbefore.isBlank hafter.isBlank hne hentry.unpadded]
      at hparse hends
    refine ⟨?_, mt hends.mp hterminator⟩
    rw [hparse]
    simp [ListText.entries, hne, hterminator]

/-- A written list is read back. -/
theorem Writes.parse_eq {text : String} {entries : List String} (h : Writes text entries)
    (hclean : ∀ entry ∈ entries, Clean entry) : parse text = entries := by
  induction h with
  | last h => exact (h.parse_eq hclean).1
  | @more line lineEnd text entries later h hend hrest ih =>
    obtain ⟨hclean, hlater⟩ := List.forall_mem_append.mp hclean
    rcases hend with rfl | rfl
    · obtain ⟨hline, hgoes⟩ := h.parse_eq hclean
      rw [parse_append hgoes, hline, ih hlater]
    · have hreturn : line ++ "\r\n" ++ text = line ++ "\r" ++ "\n" ++ text := by
        rw [show "\r\n" = "\r" ++ "\n" by decide, ← String.append_assoc]
      obtain ⟨hline, hgoes⟩ := h.append_return.parse_eq hclean
      rw [hreturn, parse_append hgoes, hline, ih hlater]

/-- **What is written is what is read.** Every entry that is read from a text is clean. A list of
clean entries is read back from every text in which it is written: one entry on a line, with white
space around it, other lines being blank, and each line ended with or without a return, the last one
perhaps not at all. A text that is put together from two others, with a line end between them, is
read as the one and then the other, unless a line of the first ends the list; then it is read as the
first. -/
theorem parses_what_is_written :
    (∀ text, ∀ entry ∈ parse text, Clean entry) ∧
    (∀ text entries, Writes text entries → (∀ entry ∈ entries, Clean entry) →
      parse text = entries) ∧
    ∀ s t, (¬ Terminated s → parse (s ++ "\n" ++ t) = parse s ++ parse t) ∧
      (Terminated s → parse (s ++ "\n" ++ t) = parse s) := by
  refine ⟨fun text entry h => clean_of_mem_parse h, fun text entries h hclean => ?_, fun s t => ?_⟩
  · exact h.parse_eq hclean
  · exact ⟨fun h => parse_append h t, fun h => parse_append_of_terminated h t⟩

/-- Two entries, the first on a line with a return and the second on a line that is not ended, with
a blank line between them; and a list that is ended before the third. -/
theorem parses_what_is_written_of_two_entries :
    parse "  cat\r\n \t\nred panda" = ["cat", "red panda"] ∧ Clean "red panda" ∧
    parse ("cat\n ... " ++ "\n" ++ "emu") = parse "cat\n ... " ∧
    parse ("cat" ++ "\n" ++ "emu") = parse "cat" ++ parse "emu" := by
  obtain ⟨hentries, hwritten, happend⟩ := parses_what_is_written
  have hnone : Padding "" := by decide
  have htwo : Padding "  " := by decide
  have hcat : Line ("  " ++ "cat" ++ "") ["cat"] := .entry htwo hnone
  have hblank : Line " \t" [] := .blank (by decide)
  have hpanda : Line ("" ++ "red panda" ++ "") ["red panda"] := .entry hnone hnone
  have hwrites : Writes "  cat\r\n \t\nred panda" ["cat", "red panda"] :=
    .more hcat (.inr rfl) (.more hblank (.inl rfl) (.last hpanda))
  have hclean : ∀ entry ∈ ["cat", "red panda"], Clean entry := by
    refine List.forall_mem_cons.mpr ⟨?_, List.forall_mem_singleton.mpr ?_⟩
    · decide
    · decide
  have hends : Terminated "cat\n ... " := ⟨" ... ".toList, by decide, by decide⟩
  have hgoes : ¬ Terminated "cat" := by
    unfold Terminated
    decide
  have hread := hwritten _ _ hwrites hclean
  have hpandaRead : "red panda" ∈ parse "  cat\r\n \t\nred panda" := by
    rw [hread]
    decide
  exact ⟨hread, hentries _ _ hpandaRead, (happend _ "emu").2 hends, (happend _ "emu").1 hgoes⟩

end ListText

end Crossword
