import Mathlib
import Crossword.Proofs.CampaignSteps
import Crossword.Proofs.Trimming

/-!
# Words on the trimmed grid

A puzzle has its grid cut down to the letters, but its words where they were placed, on the whole
grid. The corner takes the one to the other. If the words agree with the whole grid, then seen from
the corner they agree with the cut one (`Puzzle.Matches`): nothing has been cut off, and nothing is
left to cut off.

Main result: `Puzzle.matches_of_check`. It applies to every puzzle that a generator returns, and
each of the words that were asked for can be read there.
-/

namespace Crossword

/-- Holds if squares of a grid bear the letters of a word, one after the other. -/
def Grid.Spells (g : Grid) (cells : List Position) (word : String) : Prop :=
  cells.map g.get? = word.toList.map fun c => some (.letter c)

namespace Grid

variable {g : Grid} {cells : List Position} {word : String}

/-- A word is spelled if square after square bears letter after letter. -/
theorem spells_iff : g.Spells cells word ↔
    List.Forall₂ (fun q c => g.get? q = some (.letter c)) cells word.toList := by
  rw [Spells, ← List.forall₂_eq_eq_eq, List.forall₂_map_left_iff, List.forall₂_map_right_iff]

/-- Squares on which a word is spelled lie on the grid. -/
theorem Spells.inside (h : g.Spells cells word) {s : Position} (hs : s ∈ cells) : g.Inside s := by
  have hmem : g.get? s ∈ word.toList.map fun c => some (Cell.letter c) := by
    rw [← h]
    exact List.mem_map_of_mem hs
  obtain ⟨c, -, hc⟩ := List.mem_map.mp hmem
  rw [← Board.isSome_get?_iff, ← hc]
  rfl

/-- What is spelled on the whole grid is spelled on the trimmed one, as far from its corner. -/
theorem Spells.trim (h : g.Spells (cells.map (·.plus g.trim.2)) word) :
    g.trim.1.Spells cells word := by
  rw [spells_iff, List.forall₂_map_left_iff] at h
  exact spells_iff.mpr (h.imp fun s c hs => get?_trim_eq_letter_iff.mpr hs)

end Grid

namespace Placement

variable {p q : Placement} {corner : Position}

theorem mapM_minus?_eq_some_iff {cells moved : List Position} :
    cells.mapM (fun r : Position => r.minus? corner) = some moved ↔
      cells = moved.map (·.plus corner) := by
  induction cells generalizing moved with
  | nil =>
    rw [List.mapM_nil, Option.pure_def, Option.some.injEq, eq_comm, eq_comm (a := []),
      List.map_eq_nil_iff]
  | cons r rest ih =>
    simp only [List.mapM_cons, Option.bind_eq_bind, Option.bind_eq_some_iff, Option.pure_def,
      Option.some.injEq, Position.minus?_eq_some_iff, ih]
    rw [eq_comm (a := r :: rest), List.map_eq_cons_iff]
    refine ⟨fun h => ?_, fun h => ?_⟩
    · obtain ⟨s, rfl, later, rfl, rfl⟩ := h
      exact ⟨s, later, rfl, rfl, rfl⟩
    · obtain ⟨s, later, rfl, rfl, rfl⟩ := h
      exact ⟨s, rfl, later, rfl, rfl⟩

/-- A placement as seen from a corner is the one that lies as far from the corner on the whole
grid. -/
theorem minus?_eq_some_iff : p.minus? corner = some q ↔
    p.orientation = q.orientation ∧ p.cells = q.cells.map (·.plus corner) := by
  obtain ⟨cells, o⟩ := p
  obtain ⟨moved, o'⟩ := q
  simp only [minus?, Option.map_eq_some_iff, mapM_minus?_eq_some_iff, mk.injEq]
  refine ⟨fun h => ?_, fun h => ?_⟩
  · obtain ⟨moved', hcells, rfl, rfl⟩ := h
    exact ⟨rfl, hcells⟩
  · obtain ⟨rfl, hcells⟩ := h
    exact ⟨moved, hcells, rfl, rfl⟩

end Placement

namespace Layout.Consistent

variable {l : Layout} {g : Grid} {entry : PlacedWord}

/-- A word of a consistent layout can be read on its squares. -/
theorem spells (h : l.Consistent g) (he : entry ∈ l.entries) :
    g.Spells entry.placement.cells entry.word := by
  refine Grid.spells_iff.mpr (List.forall₂_iff_zip.mpr ⟨?_, fun {q c} hq => ?_⟩)
  · rw [(PlacedWord.isStraight_iff.mp (h.straight entry he)).1, String.length_toList]
  · rw [← Placement.lettered, ← entry.lettered_eq] at hq
    exact h.letters entry he q c hq

/-- A word of a consistent layout can be seen from the corner of the trimmed grid, and read on
it. -/
theorem exists_minus? (h : l.Consistent g) (he : entry ∈ l.entries) :
    ∃ q, entry.placement.minus? g.trim.2 = some q ∧ g.trim.1.Spells q.cells entry.word := by
  -- each square of the word bears a letter, and so lies neither above nor left of the corner
  have hplus : ∀ r ∈ entry.placement.cells, r ∈ Set.range (Position.plus · g.trim.2) := fun r hr =>
    Grid.exists_plus_of_lit (h.lit_iff.mpr (mem_squares.mpr ⟨entry, he, hr⟩))
  have hrange : entry.placement.cells ∈ Set.range (List.map (Position.plus · g.trim.2)) := by
    rw [Set.range_list_map]
    exact hplus
  obtain ⟨moved, hmoved⟩ := hrange
  have hspells := h.spells he
  rw [← hmoved] at hspells
  exact ⟨⟨moved, entry.placement.orientation⟩,
    Placement.minus?_eq_some_iff.mpr ⟨rfl, hmoved.symm⟩, hspells.trim⟩

end Layout.Consistent

namespace Puzzle

/-- Holds of the squares of the trimmed grid that a word covers, as it is seen from the corner. -/
def Covers (p : Puzzle) (s : Position) : Prop :=
  ∃ entry ∈ p.layout.entries, ∃ q, entry.placement.minus? p.corner = some q ∧ s ∈ q.cells

/-- A puzzle matches if its words, seen from its corner, and the letters of its grid are the
same. -/
structure Matches (p : Puzzle) : Prop where
  /-- Each word can be seen from the corner, lies on the grid, and can be read there. -/
  spelled : ∀ entry ∈ p.layout.entries, ∃ q, entry.placement.minus? p.corner = some q ∧
    (∀ s ∈ q.cells, p.grid.Inside s) ∧ p.grid.Spells q.cells entry.word
  /-- Each letter is one of a word. -/
  covered : ∀ s, p.grid.lit s = true → p.Covers s
  /-- The letters are counted once, however many words they belong to. -/
  letters : p.grid.letterCount = {s | p.Covers s}.ncard
  /-- With a letter in some word, there is one in each of the outermost rows and columns. -/
  edges : (∃ entry ∈ p.layout.entries, entry.word ≠ "") →
    ((∃ s, p.grid.lit s = true ∧ p.Covers s ∧ s.row = 0) ∧
      ∃ s, p.grid.lit s = true ∧ p.Covers s ∧ s.row + 1 = p.grid.rows) ∧
    (∃ s, p.grid.lit s = true ∧ p.Covers s ∧ s.col = 0) ∧
      ∃ s, p.grid.lit s = true ∧ p.Covers s ∧ s.col + 1 = p.grid.cols

section OfSearch

variable {l : Layout} {g : Grid} {statistics : Statistics}

/-- What a consistent layout covers on the trimmed grid are its letters. -/
theorem covers_ofSearch_iff (h : l.Consistent g) {s : Position} :
    (ofSearch g l statistics).Covers s ↔ g.trim.1.lit s = true := by
  rw [Grid.lit_trim, h.lit_iff, Layout.mem_squares]
  refine ⟨fun hs => ?_, fun hs => ?_⟩
  · obtain ⟨entry, he, q, hq, hs⟩ := hs
    refine ⟨entry, he, ?_⟩
    rw [(Placement.minus?_eq_some_iff.mp hq).2]
    exact List.mem_map_of_mem hs
  · obtain ⟨entry, he, hcell⟩ := hs
    obtain ⟨q, hq, -⟩ := h.exists_minus? he
    rw [(Placement.minus?_eq_some_iff.mp hq).2,
      List.mem_map_of_injective (Grid.plus_injective _)] at hcell
    exact ⟨entry, he, q, hq, hcell⟩

/-- A puzzle made of a grid and a consistent layout matches. -/
theorem matches_ofSearch (h : l.Consistent g) (statistics : Statistics) :
    (ofSearch g l statistics).Matches where
  spelled entry he := by
    obtain ⟨q, hq, hspells⟩ := h.exists_minus? he
    exact ⟨q, hq, fun s hs => hspells.inside hs, hspells⟩
  covered s hs := (covers_ofSearch_iff h).mpr hs
  letters := by
    have hcovered : {s | (ofSearch g l statistics).Covers s} =
        (g.trim.1.litSquares.toFinset : Set Position) := by
      ext s
      rw [Finset.mem_coe, List.mem_toFinset, Grid.mem_litSquares]
      exact covers_ofSearch_iff h
    rw [hcovered, Set.ncard_coe_finset, List.toFinset_card_of_nodup (Grid.nodup_litSquares _)]
    rfl
  edges hword := by
    obtain ⟨entry, he, hne⟩ := hword
    obtain ⟨q, hq⟩ : ∃ q, q ∈ entry.placement.cells := by
      refine List.exists_mem_of_length_pos ?_
      rw [(PlacedWord.isStraight_iff.mp (h.straight entry he)).1]
      exact Nat.pos_of_ne_zero fun h0 => hne (String.length_eq_zero_iff.mp h0)
    have hlit : g.lit q = true := h.lit_iff.mpr (Layout.mem_squares.mpr ⟨entry, he, hq⟩)
    have hcovers : ∀ {P : Position → Prop}, (∃ s, g.trim.1.lit s = true ∧ P s) →
        ∃ s, g.trim.1.lit s = true ∧ (ofSearch g l statistics).Covers s ∧ P s := by
      intro P hex
      obtain ⟨s, hs, hP⟩ := hex
      exact ⟨s, hs, (covers_ofSearch_iff h).mpr hs, hP⟩
    have htight := Grid.tight_trim hlit
    exact ⟨⟨hcovers htight.top, hcovers htight.bottom⟩, hcovers htight.left, hcovers htight.right⟩

end OfSearch

end Puzzle

/-- Where no word occurs twice, looking up a word finds its placement. -/
theorem Layout.find?_of_nodup {l : Layout} {entry : PlacedWord}
    (hnodup : (l.entries.map (·.word)).Nodup) (he : entry ∈ l.entries) :
    l.find? entry.word = some entry.placement := by
  unfold find?
  cases hfind : l.placed.find? fun other => other.word = entry.word with
  | none =>
    have hnot := Array.find?_eq_none.mp hfind entry (Array.mem_toList_iff.mp he)
    exact absurd (decide_eq_true rfl) hnot
  | some found =>
    have hword := Array.find?_some hfind
    have hfound : found ∈ l.entries := Array.mem_toList_iff.mpr (Array.mem_of_find?_eq_some hfind)
    rw [List.inj_on_of_nodup_map hnodup hfound he (of_decide_eq_true hword)]
    rfl

namespace Campaign.Found

variable {config : Config} {clocks : Clocks} {words : List String} {side : Nat} {puzzle : Puzzle}

/-- A puzzle that an attempt finds has the words of its list. -/
theorem words_eq (h : Found config clocks words side puzzle) :
    puzzle.layout.entries.map (·.word) = orderWords words := by
  obtain ⟨i, stream, placer, left, hrun, -, rfl⟩ := h
  have hsolved := congrArg Prod.fst hrun
  have hwords := Placer.words_run_of_solved (Draft.Records.blank side).counted hsolved
  rw [hrun] at hwords
  exact hwords

/-- A puzzle that an attempt finds matches, also with other counters. -/
theorem withStatistics_matches (h : Found config clocks words side puzzle)
    (statistics : Statistics) : (puzzle.withStatistics statistics).Matches := by
  obtain ⟨i, stream, placer, left, -, hcheck, rfl⟩ := h
  exact Puzzle.matches_ofSearch (Layout.check_eq_ok_iff.mp hcheck) statistics

end Campaign.Found

/-- What is known of a puzzle that a call returns: it matches, its words are those of the list, and
each is written in one line. -/
theorem Generator.matches_of_generate {g : Generator} {clocks : Clocks} {words : List String}
    {puzzle : Puzzle} (h : (g.generate clocks words).1 = .ok puzzle) :
    checkWords (g.prepared words) (g.side words) = .ok () ∧ puzzle.Matches ∧
      puzzle.layout.entries.map (·.word) = orderWords (g.prepared words) ∧
      ∀ entry ∈ puzzle.layout.entries, entry.isStraight = true := by
  obtain ⟨haccepted, found, statistics, hfound, rfl⟩ := g.found_of_generate h
  refine ⟨haccepted, hfound.withStatistics_matches statistics, hfound.words_eq, ?_⟩
  obtain ⟨_, _, _, _, -, hcheck, rfl⟩ := hfound
  exact (Layout.check_eq_ok_iff.mp hcheck).straight

namespace Puzzle

/-- In a puzzle that matches, a word that occurs once can be looked up and read. -/
theorem Matches.relativeCells?_eq {p : Puzzle} (h : p.Matches)
    (hnodup : (p.layout.entries.map (·.word)).Nodup) {entry : PlacedWord}
    (he : entry ∈ p.layout.entries) : ∃ q, entry.placement.minus? p.corner = some q ∧
      p.relativeCells? entry.word = some q.cells ∧ p.grid.Spells q.cells entry.word := by
  obtain ⟨q, hq, -, hspells⟩ := h.spelled entry he
  refine ⟨q, hq, ?_, hspells⟩
  rw [relativeCells?, relativePlacement?, Layout.find?_of_nodup hnodup he, Option.bind_some, hq]
  rfl

/-- **Trimmed grid and words match.** If a layout agrees with a grid, the puzzle that is made of
them matches: seen from the corner, each word lies on the trimmed grid and can be read there, each
letter is one of a word, there are as many letters as squares that are covered, and no row or column
at the edge is without a letter. So every puzzle that a generator returns matches, and each of the
words that it was asked for is found where it is recorded, and can be read there. -/
theorem matches_of_check :
    (∀ (g : Grid) (l : Layout) (statistics : Statistics), l.check g = .ok () →
      (ofSearch g l statistics).Matches) ∧
    ∀ (g : Generator) (clocks : Clocks) (words : List String) (puzzle : Puzzle),
      (g.generate clocks words).1 = .ok puzzle →
      puzzle.Matches ∧ ∀ word ∈ prepareWords g.config.casePolicy words,
        ∃ entry ∈ puzzle.layout.entries, entry.word = word ∧
          ∃ q, entry.placement.minus? puzzle.corner = some q ∧
            puzzle.relativeCells? word = some q.cells ∧ puzzle.grid.Spells q.cells word := by
  refine ⟨fun g l statistics hcheck => ?_, fun g clocks words puzzle hpuzzle => ?_⟩
  · exact matches_ofSearch (Layout.check_eq_ok_iff.mp hcheck) statistics
  · obtain ⟨haccepted, found, statistics, hfound, rfl⟩ := g.found_of_generate hpuzzle
    have hmatches := hfound.withStatistics_matches statistics
    have hwords : (found.withStatistics statistics).layout.entries.map (·.word) =
        orderWords (g.prepared words) := hfound.words_eq
    have hnodup : ((found.withStatistics statistics).layout.entries.map (·.word)).Nodup := by
      rw [hwords, (orderWords_perm _).nodup_iff]
      exact (checkWords_eq_ok_iff.mp haccepted).2.2
    refine ⟨hmatches, fun word hword => ?_⟩
    have hmem := (orderWords_perm (g.prepared words)).mem_iff.mpr hword
    rw [← hwords] at hmem
    obtain ⟨entry, he, rfl⟩ := List.mem_map.mp hmem
    exact ⟨entry, he, rfl, hmatches.relativeCells?_eq hnodup he⟩

/-- A grid with one word is cut down to that word, and a puzzle of two crossing words can be
read. -/
theorem matches_of_one_word :
    let l := Layout.empty.push "CAT" ⟨[⟨1, 2⟩, ⟨2, 2⟩, ⟨3, 2⟩], .down⟩
    let g := (Grid.ofLines? [".....", "..C..", "..A..", "..T.."]).getD (Grid.blank 0 0)
    l.check g = .ok () ∧ (ofSearch g l {}).Matches ∧
    ∃ puzzle, ((⟨.usual, .ofSeed 42⟩ : Generator).generate .still ["ABC", "CDA"]).1 = .ok puzzle ∧
      puzzle.Matches ∧ ∃ q : Placement,
        puzzle.relativeCells? "CDA" = some q.cells ∧ puzzle.grid.Spells q.cells "CDA" := by
  intro l g
  have hcheck : l.check g = .ok () := by
    subst l g
    cbv
  have hok : ((⟨.usual, .ofSeed 42⟩ : Generator).generate .still ["ABC", "CDA"]).1.isOk = true := by
    cbv
  obtain ⟨hsearch, hgenerate⟩ := matches_of_check
  refine ⟨hcheck, hsearch g l {} hcheck, ?_⟩
  cases hpuzzle : ((⟨.usual, .ofSeed 42⟩ : Generator).generate .still ["ABC", "CDA"]).1 with
  | error e =>
    rw [hpuzzle] at hok
    cases hok
  | ok puzzle =>
    obtain ⟨hmatches, hread⟩ := hgenerate _ .still ["ABC", "CDA"] puzzle hpuzzle
    have hword : "CDA" ∈ prepareWords Config.usual.casePolicy ["ABC", "CDA"] := by decide
    obtain ⟨entry, -, -, q, -, hcells, hspells⟩ := hread "CDA" hword
    exact ⟨puzzle, rfl, hmatches, q, hcells, hspells⟩

end Puzzle

end Crossword
