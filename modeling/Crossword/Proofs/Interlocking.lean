import Crossword.Proofs.Results
import Crossword.Proofs.Trimming
import Mathlib

/-!
# Layouts in one piece

The layouts that are found hang together: each word but the first has a square in common with an
earlier one, so there is a way from each word to each other one over common squares. A word that
shares a square takes one square less than it has letters, which bounds the number of letters on
the grid. Trimming the grid changes none of this.

Main result: `interlocks_of_found`, for the layout of a search and for the puzzle of a generator.
-/

namespace Crossword

/-- Two placed words overlap if they share a square. -/
def PlacedWord.Overlaps (v w : PlacedWord) : Prop :=
  ∃ q, q ∈ v.placement.cells ∧ q ∈ w.placement.cells

/-- A layout of some words interlocks on a grid if it is in one piece: in the order in which they
are placed, each word but the first overlaps an earlier one, and over overlapping words there is a
way from each word to each other one. The letters on the grid are as many as the squares that are
covered, and each word but one makes at least one letter less. -/
structure Layout.Interlocks (l : Layout) (words : List String) (g : Grid) : Prop where
  ordered : l.entries.map (·.word) = orderWords words
  earlier : ∀ pre w post, l.entries = pre ++ w :: post → pre ≠ [] → ∃ v ∈ pre, v.Overlaps w
  connected : ∀ v ∈ l.entries, ∀ w ∈ l.entries,
    Relation.ReflTransGen (fun u x => x ∈ l.entries ∧ u.Overlaps x) v w
  letters : g.letterCount = l.squares.toFinset.card
  shared : g.letterCount + (words.length - 1) ≤ (words.map String.length).sum

theorem PlacedWord.Overlaps.symm {v w : PlacedWord} (h : v.Overlaps w) : w.Overlaps v := by
  obtain ⟨q, hv, hw⟩ := h
  exact ⟨q, hw, hv⟩

section Recorded

variable {side : Nat} {entries : List PlacedWord} {placed : List (String × Anchor)}

/-- A word covers the squares on which it puts letters. -/
theorem mem_cells_of_letterAt? {v : PlacedWord} {x : String × Anchor} {q : Position} {c : Char}
    (hv : v.record = recordAt side side x) (hc : x.2.letterAt? x.1 q = some c) :
    q ∈ v.placement.cells := by
  have hword : x.1 = v.word := (congrArg Prod.fst hv).symm
  have hp : Placement.ofAnchor? x.2 x.1.length side side = some v.placement :=
    (congrArg Prod.snd hv).symm
  have hmem : (q, c) ∈ v.placement.lettered v.word := by
    rw [← v.lettered_eq]
    exact (PlacedWord.mem_lettered_iff hword hp).mpr hc
  exact (List.of_mem_zip hmem).1

/-- Where the words of an admissible layout are recorded, each but the first overlaps an earlier
one. -/
theorem Linked.overlaps (h : Linked placed)
    (hentries : entries.map PlacedWord.record = placed.map (recordAt side side)) :
    ∀ pre w post, entries = pre ++ w :: post → pre ≠ [] → ∃ v ∈ pre, v.Overlaps w := by
  intro pre w post heq hne
  rw [heq, List.map_append, List.map_cons] at hentries
  -- the layout splits where its record does
  obtain ⟨pre', rest, rfl, hpre, hrest⟩ := List.map_eq_append_iff.mp hentries.symm
  obtain ⟨x, post', rfl, hx, -⟩ := List.map_eq_cons_iff.mp hrest
  have hne' : pre' ≠ [] := fun hnil => hne (List.map_eq_nil_iff.mp (by rw [← hpre, hnil]; rfl))
  obtain ⟨y, hy, q, c, d, hc, hd⟩ := h pre' x post' rfl hne'
  have hmem : recordAt side side y ∈ pre.map PlacedWord.record := hpre ▸ List.mem_map_of_mem hy
  obtain ⟨v, hv, hrecord⟩ := List.mem_map.mp hmem
  exact ⟨v, hv, q, mem_cells_of_letterAt? hrecord hc, mem_cells_of_letterAt? hx.symm hd⟩

end Recorded

/-- Words of which each but the first overlaps an earlier one cover fewer squares than they have, by
at least one for each word but the first. -/
theorem card_squares_add_le {entries : List PlacedWord}
    (h : ∀ pre w post, entries = pre ++ w :: post → pre ≠ [] → ∃ v ∈ pre, v.Overlaps w) :
    (entries.flatMap fun entry => entry.placement.cells).toFinset.card + (entries.length - 1) ≤
      (entries.map fun entry => entry.placement.cells.length).sum := by
  induction entries using List.reverseRecOn with
  | nil => exact Nat.le_refl _
  | append_singleton pre w ih =>
    obtain ⟨hpre, hw⟩ := (forall_split_append_singleton_iff
      (P := fun (pre : List PlacedWord) w => pre ≠ [] → ∃ v ∈ pre, v.Overlaps w)).mp h
    have hold := ih hpre
    rw [List.flatMap_append, List.flatMap_singleton, List.toFinset_append, List.length_append,
      List.length_singleton, List.map_append, List.sum_append, List.map_singleton,
      List.sum_singleton]
    generalize hcovered :
      (pre.flatMap fun entry => entry.placement.cells).toFinset = covered at hold ⊢
    have hunion := Finset.card_union_add_card_inter covered w.placement.cells.toFinset
    have hnew : w.placement.cells.toFinset.card ≤ w.placement.cells.length :=
      List.toFinset_card_le _
    by_cases hfirst : pre = []
    · rw [hfirst] at hold ⊢
      simp only [List.length_nil, List.map_nil, List.sum_nil] at hold ⊢
      omega
    · -- the square that the new word shares is counted once
      obtain ⟨v, hv, q, hqv, hqw⟩ := hw hfirst
      have hshared : q ∈ covered ∩ w.placement.cells.toFinset := by
        rw [← hcovered, Finset.mem_inter, List.mem_toFinset, List.mem_toFinset]
        exact ⟨List.mem_flatMap.mpr ⟨v, hv, hqv⟩, hqw⟩
      have hpos := Finset.card_pos.mpr ⟨q, hshared⟩
      have hlength := List.length_pos_iff.mpr hfirst
      omega

/-- A sound draft has as many letters as its words cover squares. -/
theorem Draft.Sound.letterCount_eq {d : Draft} (h : d.Sound) :
    d.grid.letterCount = d.layout.squares.toFinset.card := by
  have hsame : d.grid.litSquares.toFinset = d.layout.squares.toFinset := by
    ext q
    rw [List.mem_toFinset, List.mem_toFinset, Grid.mem_litSquares, h.consistent.lit_iff]
  rw [← hsame, List.toFinset_card_of_nodup (Grid.nodup_litSquares _)]
  rfl

/-- What a first run on accepted words finds interlocks. -/
theorem Placer.interlocks_of_solved {words : List String} {side : Nat} {budget : Budget}
    {clock : Clock} {stream : Keystream} (hwords : checkWords words side = .ok ())
    (hfew : words.length ≤ maxOwners)
    (hsolved : ((onSide words side budget).run clock stream).1 = .solved) :
    let d := ((onSide words side budget).run clock stream).2.1.draft
    d.layout.Interlocks words d.grid := by
  intro d
  have hsound : d.Sound := sound_run_of_accepted hwords hfew budget clock stream
  obtain ⟨placed, ⟨hplaced, hadm⟩, hentries⟩ := exists_layout_of_solved hwords hfew hsolved
  have hearlier := hadm.linked.overlaps hentries
  have hnames : d.layout.entries.map (·.word) = orderWords words := by
    have hfst := congrArg (List.map Prod.fst) hentries
    rw [List.map_map, List.map_map] at hfst
    exact hfst.trans hplaced
  have hlength : d.layout.entries.length = words.length := by
    rw [← List.length_map (f := (·.word)), hnames, (orderWords_perm words).length_eq]
  have hsum : (d.layout.entries.map fun entry => entry.placement.cells.length).sum =
      (words.map String.length).sum := by
    have hstraight : ∀ entry ∈ d.layout.entries,
        entry.placement.cells.length = entry.word.length := fun entry he =>
      (PlacedWord.isStraight_iff.mp (hsound.straight entry he)).1
    rw [List.map_congr_left hstraight, ← ((orderWords_perm words).map String.length).sum_eq,
      ← hnames, List.map_map]
    rfl
  refine ⟨hnames, hearlier, connected_of_linked (fun _ _ => PlacedWord.Overlaps.symm) hearlier,
    hsound.letterCount_eq, ?_⟩
  rw [hsound.letterCount_eq, ← hlength, ← hsum]
  exact card_squares_add_le hearlier

/-- A puzzle that a call returns interlocks, with its letters counted on the trimmed grid. -/
theorem Generator.interlocks_of_generate {g : Generator} {clocks : Clocks} {words : List String}
    {puzzle : Puzzle} (hvalid : g.config.check = .ok ()) (hfew : words.length ≤ maxOwners)
    (hpuzzle : (g.generate clocks words).1 = .ok puzzle) :
    puzzle.layout.Interlocks (g.prepared words) puzzle.grid := by
  obtain ⟨hwords, hresult⟩ := result_of_generate hvalid hfew hpuzzle nofun
  obtain ⟨i, hi, rfl⟩ := isBest_of_result_eq_ok hresult
  have hfound := Placer.interlocks_of_solved hwords (length_prepared g words ▸ hfew) hi.solved
  -- the puzzle has the layout of its attempt, and its grid cut down to the letters
  have htrim := Grid.letterCount_trim (g.placer clocks words i).draft.grid
  exact ⟨hfound.ordered, hfound.earlier, hfound.connected, htrim.trans hfound.letters,
    htrim ▸ hfound.shared⟩

/-- **What is found is in one piece.** The layout of a first run that is solved interlocks, on an
accepted list of words with any side, budget, clock and stream; and so does the layout of every
puzzle that a generator with acceptable parameters returns, on its trimmed grid. -/
theorem interlocks_of_found {words : List String} (hfew : words.length < 2 ^ 32) :
    (∀ (side : Nat) (budget : Budget) (p : Placer) (clock : Clock) (stream : Keystream),
      Placer.ofWordsOnSide words side budget = .ok p → (p.run clock stream).1 = .solved →
      (p.run clock stream).2.1.draft.layout.Interlocks words
        (p.run clock stream).2.1.draft.grid) ∧
    (∀ (g : Generator) (clocks : Clocks) (puzzle : Puzzle),
      g.config.check = .ok () → (g.generate clocks words).1 = .ok puzzle →
      puzzle.layout.Interlocks (prepareWords g.config.casePolicy words) puzzle.grid) := by
  have hroom : words.length ≤ maxOwners := Nat.le_sub_one_of_lt hfew
  refine ⟨?_, ?_⟩
  · intro side budget p clock stream haccepted hsolved
    obtain ⟨hwords, rfl⟩ := Placer.ofWordsOnSide_eq_ok_iff.mp haccepted
    exact Placer.interlocks_of_solved hwords hroom hsolved
  · intro g clocks puzzle hvalid hpuzzle
    exact Generator.interlocks_of_generate hvalid hroom hpuzzle

/-- Two words that cross have one letter less than they would have apart, on the grid of a run and
on that of a puzzle. -/
theorem interlocks_of_crossing_words :
    ((Placer.onSide ["ABC", "CDA"] 6 ⟨10, none⟩).run .still
      (.ofSeed 1)).2.1.draft.grid.letterCount + 1 ≤ 6 ∧
    ∃ puzzle, ((⟨.usual, .ofSeed 42⟩ : Generator).generate .still ["ABC", "CDA"]).1 = .ok puzzle ∧
      puzzle.grid.letterCount + 1 ≤ 6 := by
  have hfew : ["ABC", "CDA"].length < 2 ^ 32 := by decide
  have haccepted : Placer.ofWordsOnSide ["ABC", "CDA"] 6 ⟨10, none⟩ =
      .ok (Placer.onSide ["ABC", "CDA"] 6 ⟨10, none⟩) := by cbv
  have hok : ((⟨.usual, .ofSeed 42⟩ : Generator).generate .still ["ABC", "CDA"]).1.isOk = true := by
    cbv
  obtain ⟨hrun, hgenerate⟩ := interlocks_of_found hfew
  refine ⟨(hrun 6 ⟨10, none⟩ _ .still (.ofSeed 1) haccepted (by cbv)).shared, ?_⟩
  cases hpuzzle : ((⟨.usual, .ofSeed 42⟩ : Generator).generate .still ["ABC", "CDA"]).1 with
  | error e =>
    rw [hpuzzle] at hok
    cases hok
  | ok puzzle => exact ⟨puzzle, rfl, (hgenerate _ .still puzzle rfl hpuzzle).shared⟩

end Crossword
