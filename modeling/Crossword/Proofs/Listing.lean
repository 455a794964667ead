import Crossword.Preview
import Crossword.Proofs.GridText
import Crossword.Proofs.Starts

/-!
# What a preview shows

A preview says of each word where it begins, and falls back on the corner if it does not know. For a
puzzle that a generator returns it always knows: a word that occurs once is looked up at its own
placement, which lies on the trimmed grid, and the word can be read there from its first square on
(`Preview.exists_start`). The words are put in order on the whole grid and shown on the trimmed one,
which is the same order (`Position.le_plus_iff`). The lines above the headings are the grid, and it
is read back from them.

Main result: `preview_is_faithful`.
-/

namespace Crossword

theorem Position.le_plus_iff {p q corner : Position} :
    (p.plus corner).le (q.plus corner) = true ↔ p.le q = true := by
  simp only [Position.le_iff, Position.plus]
  omega

/-- Holds if a word can be read on a grid from a square on, in a direction. -/
def Grid.ReadsFrom (g : Grid) (word : String) (start : Position) (o : Orientation) : Prop :=
  ∀ (i : Nat) (c : Char), word.toList[i]? = some c →
    g.get? ⟨start.row + o.rowStep * i, start.col + o.colStep * i⟩ = some (.letter c)

/-- A straight run is one also as it is seen from another corner. -/
theorem Placement.contiguousIn_of_map_plus {o : Orientation} {cells : List Position}
    {corner : Position} (h : contiguousIn o (cells.map (·.plus corner)) = true) :
    contiguousIn o cells = true := by
  rw [contiguousIn_iff] at h ⊢
  intro i p q hp hq
  have hstep := h i (p.plus corner) (q.plus corner) (by simp [hp]) (by simp [hq])
  simp only [Position.plus] at hstep
  omega

/-- What is spelled on a straight run can be read from its first square on. -/
theorem Grid.Spells.readsFrom {g : Grid} {word : String} {o : Orientation} {start : Position}
    {rest : List Position} (h : g.Spells (start :: rest) word)
    (hrun : Placement.contiguousIn o (start :: rest) = true) : g.ReadsFrom word start o := by
  intro i c hc
  have hread : ((start :: rest).map g.get?)[i]? = some (some (.letter c)) := by
    rw [show (start :: rest).map g.get? = _ from h, List.getElem?_map, hc]
    rfl
  rw [List.getElem?_map, Option.map_eq_some_iff] at hread
  obtain ⟨q, hq, hletter⟩ := hread
  obtain ⟨hrow, hcol⟩ := Placement.getElem?_of_contiguousIn hrun hq
  rw [← hrow, ← hcol]
  exact hletter

namespace Puzzle

/-- Each letter of a puzzle that matches is one of a word. -/
theorem Matches.exists_word {p : Puzzle} (h : p.Matches) {s : Position} {c : Char}
    (hs : p.grid.get? s = some (.letter c)) :
    ∃ entry ∈ p.layout.entries, c ∈ entry.word.toList := by
  obtain ⟨entry, he, q, hq, hcell⟩ := h.covered s (Grid.lit_iff.mpr ⟨c, hs⟩)
  obtain ⟨q', hq', -, hspells⟩ := h.spelled entry he
  obtain rfl : q = q' := Option.some.inj (hq.symm.trans hq')
  have hmem : some (Cell.letter c) ∈ q.cells.map p.grid.get? := hs ▸ List.mem_map_of_mem hcell
  rw [show q.cells.map p.grid.get? = _ from hspells] at hmem
  obtain ⟨d, hd, heq⟩ := List.mem_map.mp hmem
  cases heq
  exact ⟨entry, he, hd⟩

end Puzzle

namespace Preview

/-! ## Lines -/

/-- A word as it is listed, with the square at which it is said to begin. -/
structure Item where
  word : String
  start : Position

/-- The line for a listed word. -/
def Item.line (clues : Clues) (x : Item) : String :=
  s!"  ({x.start.row}, {x.start.col}) {x.word}: {clues.clueFor x.word}"

/-- The lines for the listed words of one direction: a blank one and the heading before them, none
if there are no words. -/
def block (clues : Clues) (o : Orientation) (items : List Item) : List String :=
  if items.isEmpty then [] else ["", o.label] ++ items.map (·.line clues)

/-- A placed word as it is listed. -/
def item (p : Puzzle) (entry : PlacedWord) : Item :=
  ⟨entry.word, ((p.relativePlacement? entry.word).bind (·.start?)).getD .origin⟩

/-- The listed words of one direction. -/
def items (p : Puzzle) (o : Orientation) : List Item := (p.wordsIn o).map (item p)

theorem wordLines_eq (p : Puzzle) (clues : Clues) (o : Orientation) :
    wordLines p clues o = block clues o (items p o) := by
  unfold wordLines items block
  cases p.wordsIn o with
  | nil => rfl
  | cons entry rest => simp [wordLine, item, Item.line, Function.comp_def]

/-- Without a title, the preview is the grid and what is listed. -/
theorem preview_eq (p : Puzzle) (clues : Clues) : preview p clues none =
    "\n".intercalate (p.grid.toText :: Orientation.all.flatMap fun o => block clues o (items p o)) ++
      "\n" := by
  unfold preview
  rw [funext (wordLines_eq p clues)]
  rfl

/-- The first line of a text of lines is followed by a line end. -/
theorem exists_intercalate_eq (line : String) (others : List String) :
    ∃ rest, "\n".intercalate (line :: others) ++ "\n" = line ++ "\n" ++ rest := by
  cases others with
  | nil => exact ⟨"", by simp⟩
  | cons next others =>
    exact ⟨"\n".intercalate (next :: others) ++ "\n", by simp [String.append_assoc]⟩

/-- The grid is read back from as many lines of the preview as it has rows, unless a letter looks
like a blank or ends the line. -/
theorem ofLines?_preview {p : Puzzle} (clues : Clues) (hrows : 0 < p.grid.rows)
    (hmark : ∀ s, p.grid.get? s ≠ some (.letter Cell.blankMark))
    (hend : ∀ s, p.grid.get? s ≠ some (.letter '\n')) :
    Grid.ofLines? ((Text.linesOf (preview p clues none)).take p.grid.rows) = some p.grid := by
  obtain ⟨rest, hrest⟩ := exists_intercalate_eq p.grid.toText
    (Orientation.all.flatMap fun o => block clues o (items p o))
  rw [preview_eq, hrest, Text.linesOf_append, Grid.linesOf_toText hrows hend,
    List.take_left' (Grid.length_lines p.grid), Grid.ofLines?_lines hrows hmark]

/-! ## Where words begin -/

/-- A word with letters that occurs once is listed with the square at which it begins, and can be
read from there on. -/
theorem exists_start {p : Puzzle} (hmatches : p.Matches)
    (honce : (p.layout.entries.map (·.word)).Nodup) {entry : PlacedWord}
    (he : entry ∈ p.layout.entries) (hstraight : entry.isStraight = true)
    (hword : entry.word ≠ "") :
    entry.placement.start? = some ((item p entry).start.plus p.corner) ∧
      p.grid.ReadsFrom entry.word (item p entry).start entry.placement.orientation := by
  obtain ⟨q, hq, -, hspells⟩ := hmatches.spelled entry he
  obtain ⟨ho, hcells⟩ := Placement.minus?_eq_some_iff.mp hq
  have hlookup : p.relativePlacement? entry.word = some q := by
    rw [Puzzle.relativePlacement?, Layout.find?_of_nodup honce he, Option.bind_some, hq]
  have hrun : Placement.contiguousIn entry.placement.orientation q.cells = true := by
    have hwhole := (PlacedWord.isStraight_iff.mp hstraight).2
    rw [Placement.isContiguous, hcells] at hwhole
    exact Placement.contiguousIn_of_map_plus hwhole
  unfold item
  rw [hlookup, Option.bind_some, Placement.start?, Placement.start?, hcells]
  cases hq' : q.cells with
  | nil =>
    -- only the empty word is spelled on no squares
    rw [hq'] at hspells
    have hnil : entry.word.toList = [] := List.map_eq_nil_iff.mp hspells.symm
    exact absurd (String.toList_eq_nil_iff.mp hnil) hword
  | cons start rest =>
    rw [hq'] at hspells hrun
    exact ⟨rfl, hspells.readsFrom hrun⟩

/-- Holds of a puzzle whose preview lists some words as they are placed. -/
structure Faithful (p : Puzzle) (words : List String) : Prop where
  /-- Each word is listed once, and no other. -/
  listed : ((Orientation.all.flatMap (items p)).map (·.word)).Perm words
  once : words.Nodup
  /-- A word is listed under its own direction, with the square at which it begins. -/
  placed : ∀ o, ∀ x ∈ items p o, ∃ entry ∈ p.layout.entries, entry.word = x.word ∧
    entry.placement.orientation = o ∧ entry.placement.start? = some (x.start.plus p.corner)
  /-- From that square on it can be read. -/
  reads : ∀ o, ∀ x ∈ items p o, p.grid.ReadsFrom x.word x.start o
  /-- The squares are in reading order. -/
  ordered : ∀ o, (items p o).Pairwise fun x y => x.start.le y.start = true

/-- A puzzle that matches has a faithful preview, if its words have letters and occur once. -/
theorem faithful_of_matches {p : Puzzle} {words : List String} (hmatches : p.Matches)
    (hwords : (p.layout.entries.map (·.word)).Perm words) (honce : words.Nodup)
    (hne : ∀ word ∈ words, word ≠ "")
    (hstraight : ∀ entry ∈ p.layout.entries, entry.isStraight = true) : Faithful p words := by
  have hstart : ∀ entry ∈ p.layout.entries,
      entry.placement.start? = some ((item p entry).start.plus p.corner) ∧
        p.grid.ReadsFrom entry.word (item p entry).start entry.placement.orientation :=
    fun entry he => exists_start hmatches (hwords.nodup_iff.mpr honce) he (hstraight entry he)
      (hne _ (hwords.mem_iff.mp (List.mem_map_of_mem he)))
  refine ⟨?_, honce, fun o x hx => ?_, fun o x hx => ?_, fun o => ?_⟩
  · have hmap : (Orientation.all.flatMap (items p)).map (·.word) =
        (Orientation.all.flatMap p.wordsIn).map (·.word) := by
      simp [items, List.map_flatMap, Function.comp_def, item]
    rw [hmap]
    exact (p.perm_wordsIn.map _).trans hwords
  · obtain ⟨entry, hentry, rfl⟩ := List.mem_map.mp hx
    obtain ⟨he, ho⟩ := Puzzle.mem_wordsIn.mp hentry
    exact ⟨entry, he, rfl, ho, (hstart entry he).1⟩
  · obtain ⟨entry, hentry, rfl⟩ := List.mem_map.mp hx
    obtain ⟨he, rfl⟩ := Puzzle.mem_wordsIn.mp hentry
    exact (hstart entry he).2
  · refine List.pairwise_map.mpr ((p.pairwise_wordsIn o).imp_of_mem fun hv hw hle => ?_)
    rw [(hstart _ (Puzzle.mem_wordsIn.mp hv).1).1, (hstart _ (Puzzle.mem_wordsIn.mp hw).1).1] at hle
    exact Position.le_plus_iff.mp hle

end Preview

/-- **The preview is faithful.** The preview of a puzzle that a call returns, without a title, is
the grid, followed by the listed words of each direction under its heading. Each of the words that
were asked for is listed once, under the direction in which it is placed and with the square at
which it begins, so that it can be read on the grid from there on; and under each heading these
squares are in reading order. If no word contains a dot or a line end, the grid is read back from as
many lines as it has rows. -/
theorem preview_is_faithful {g : Generator} {clocks : Clocks} {words : List String}
    {puzzle : Puzzle} (h : (g.generate clocks words).1 = .ok puzzle) (clues : Clues) :
    preview puzzle clues none = "\n".intercalate (puzzle.grid.toText ::
      Orientation.all.flatMap fun o => Preview.block clues o (Preview.items puzzle o)) ++ "\n" ∧
    Preview.Faithful puzzle (g.prepared words) ∧
    ((∀ word ∈ g.prepared words, '.' ∉ word.toList ∧ '\n' ∉ word.toList) →
      Grid.ofLines? ((Text.linesOf (preview puzzle clues none)).take puzzle.grid.rows) =
        some puzzle.grid) := by
  obtain ⟨haccepted, hmatches, hwords, hstraight⟩ := Generator.matches_of_generate h
  obtain ⟨hsome, hbounds, honce⟩ := checkWords_eq_ok_iff.mp haccepted
  have hperm : (puzzle.layout.entries.map (·.word)).Perm (g.prepared words) :=
    hwords ▸ orderWords_perm _
  refine ⟨Preview.preview_eq puzzle clues, Preview.faithful_of_matches hmatches hperm honce
    (fun word hword => (hbounds word hword).1) hstraight, fun hplain => ?_⟩
  have hletter : ∀ {s : Position} {c : Char}, puzzle.grid.get? s = some (.letter c) →
      ∃ word ∈ g.prepared words, c ∈ word.toList := by
    intro s c hs
    obtain ⟨entry, he, hc⟩ := hmatches.exists_word hs
    exact ⟨entry.word, hperm.mem_iff.mp (List.mem_map_of_mem he), hc⟩
  refine Preview.ofLines?_preview clues ?_ (fun s hs => ?_) fun s hs => ?_
  · -- the grid has a row, since some word is written on it
    obtain ⟨word, hword⟩ := List.exists_mem_of_ne_nil _ hsome
    obtain ⟨entry, he, rfl⟩ := List.mem_map.mp (hperm.mem_iff.mpr hword)
    obtain ⟨⟨-, ⟨s, hlit, -⟩⟩, -⟩ := hmatches.edges ⟨entry, he, (hbounds _ hword).1⟩
    exact Nat.zero_lt_of_lt (Grid.inside_of_lit hlit).1
  · obtain ⟨word, hword, hc⟩ := hletter hs
    exact (hplain word hword).1 hc
  · obtain ⟨word, hword, hc⟩ := hletter hs
    exact (hplain word hword).2 hc

/-- Two words that cross are both listed, and their grid is read back. -/
theorem preview_is_faithful_of_two_words :
    ∃ puzzle, ((⟨.usual, .ofSeed 42⟩ : Generator).generate .still ["ABC", "CDA"]).1 = .ok puzzle ∧
      Preview.Faithful puzzle ["ABC", "CDA"] ∧
      Grid.ofLines? ((Text.linesOf (preview puzzle .empty none)).take puzzle.grid.rows) =
        some puzzle.grid := by
  have hok : ((⟨.usual, .ofSeed 42⟩ : Generator).generate .still ["ABC", "CDA"]).1.isOk = true := by
    cbv
  cases hpuzzle : ((⟨.usual, .ofSeed 42⟩ : Generator).generate .still ["ABC", "CDA"]).1 with
  | error e =>
    rw [hpuzzle] at hok
    cases hok
  | ok puzzle =>
    obtain ⟨-, hfaithful, hread⟩ := preview_is_faithful hpuzzle .empty
    have hplain : ∀ word ∈ ["ABC", "CDA"], '.' ∉ word.toList ∧ '\n' ∉ word.toList := by decide
    exact ⟨puzzle, rfl, hfaithful, hread hplain⟩

end Crossword
