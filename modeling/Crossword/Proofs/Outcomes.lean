import Crossword.Proofs.Counting
import Crossword.Proofs.Runs

/-!
# What an outcome says

How a first run ends, compared with the admissible layouts that there are. What it places is one of
them (`Placer.exists_layout_of_solved`), if it is exhausted there is none
(`Placer.not_nonempty_layouts_of_exhausted`), and with a budget that has room for a backtrack at
each partial layout it finds out which is the case (`Placer.not_abandoned_of_le`).
-/

namespace Crossword

/-! ## Accepted words -/

/-- Words are accepted after those seen before if none is empty, longer than the side, or a
repeat. -/
theorem checkWordsAfter_eq_ok_iff {side : Nat} {seen words : List String} :
    checkWordsAfter side seen words = .ok () ↔
      (∀ word ∈ words, word ≠ "" ∧ word.length ≤ side ∧ word ∉ seen) ∧ words.Nodup := by
  induction words generalizing seen with
  | nil => simp [checkWordsAfter]
  | cons word rest ih =>
    rw [checkWordsAfter, List.forall_mem_cons, List.nodup_cons]
    by_cases hempty : word.length = 0
    · rw [if_pos hempty]
      exact iff_of_false error_ne_ok fun h => h.1.1.1 (String.length_eq_zero_iff.mp hempty)
    by_cases hlong : word.length > side
    · rw [if_neg hempty, if_pos hlong]
      exact iff_of_false error_ne_ok fun h => absurd h.1.1.2.1 (Nat.not_le_of_gt hlong)
    by_cases hseen : seen.contains word = true
    · rw [if_neg hempty, if_neg hlong, if_pos hseen]
      exact iff_of_false error_ne_ok fun h => h.1.1.2.2 (List.contains_iff_mem.mp hseen)
    rw [if_neg hempty, if_neg hlong, if_neg hseen, ih]
    -- no later word has been seen before or is the word itself
    refine ⟨fun h => ?_, fun h => ?_⟩
    · obtain ⟨hrest, hnodup⟩ := h
      have hword : word ≠ "" ∧ word.length ≤ side ∧ word ∉ seen :=
        ⟨fun he => hempty (String.length_eq_zero_iff.mpr he), Nat.not_lt.mp hlong,
          fun hmem => hseen (List.contains_iff_mem.mpr hmem)⟩
      refine ⟨⟨hword, fun v hv => ?_⟩, fun hmem => (hrest word hmem).2.2 (List.mem_cons_self ..),
        hnodup⟩
      obtain ⟨hv, hlen, hnot⟩ := hrest v hv
      exact ⟨hv, hlen, fun hmem => hnot (List.mem_cons_of_mem _ hmem)⟩
    · obtain ⟨⟨-, hrest⟩, hnot, hnodup⟩ := h
      refine ⟨fun v hv => ?_, hnodup⟩
      obtain ⟨hne, hlen, hold⟩ := hrest v hv
      refine ⟨hne, hlen, fun hmem => ?_⟩
      rcases List.mem_cons.mp hmem with rfl | hmem
      · exact hnot hv
      · exact hold hmem

/-- Words are accepted if there is one, none is empty or longer than the side, and none occurs
twice. -/
theorem checkWords_eq_ok_iff {words : List String} {side : Nat} :
    checkWords words side = .ok () ↔
      words ≠ [] ∧ (∀ word ∈ words, word ≠ "" ∧ word.length ≤ side) ∧ words.Nodup := by
  cases words with
  | nil => exact iff_of_false error_ne_ok fun h => h.1 rfl
  | cons word rest =>
    show checkWordsAfter side [] (word :: rest) = .ok () ↔ _
    rw [checkWordsAfter_eq_ok_iff]
    simp

/-- Accepted words have letters, and no more of them than fit on a side of the grid. -/
theorem bounds_of_checkWords {words : List String} {side : Nat}
    (h : checkWords words side = .ok ()) :
    ∀ word ∈ words, 0 < word.length ∧ word.length ≤ side := by
  intro word hword
  obtain ⟨hne, hle⟩ := (checkWords_eq_ok_iff.mp h).2.1 word hword
  exact ⟨Nat.pos_of_ne_zero fun h0 => hne (String.length_eq_zero_iff.mp h0), hle⟩

/-! ## Layouts of some words -/

/-- The admissible layouts of some words in their order. -/
def layouts (side : Nat) (words : List String) : Set (List (String × Anchor)) :=
  {placed | placed.map Prod.fst = words ∧ Admissible side placed}

/-- The admissible layouts of the first few of some words: of at least one, but not of all. -/
def partialLayouts (side : Nat) (words : List String) : Set (List (String × Anchor)) :=
  {placed | placed ≠ [] ∧ placed.map Prod.fst <+: words ∧ placed.length < words.length ∧
    Admissible side placed}

section Partial

variable {side : Nat} {words : List String} {placed : List (String × Anchor)}

/-- On a blank draft, the courses are the admissible layouts, as long as there are no more words
than can be counted. -/
theorem exists_course_iff (hle : ∀ x ∈ placed, x.1.length ≤ side)
    (hroom : placed.length ≤ maxOwners) :
    (∃ e, Course true (Draft.blank side) placed e) ↔ Admissible side placed := by
  constructor
  · intro h
    obtain ⟨e, he⟩ := h
    exact he.admissible (Draft.sound_blank side) (.blank side) (admissible_nil side) (by simp)
      (by simpa [Draft.blank, Draft.onGrid, Layout.empty, Layout.size] using hroom)
  · intro h
    have hall : Admissible side ([] ++ placed) := h
    exact hall.exists_course (.blank side) (by simp) hle

/-- The partial layouts are the partial courses of a search on the blank draft. -/
theorem mem_partialLayouts_iff (hle : ∀ word ∈ words, word.length ≤ side)
    (hroom : words.length ≤ maxOwners) : placed ∈ partialLayouts side words ↔
      placed ∈ (Draft.blank side).courses true words.dropLast := by
  have hstarts : placed ≠ [] → (placed.map Prod.fst <+: words.dropLast ↔
      placed.map Prod.fst <+: words ∧ placed.length < words.length) := by
    intro hne
    have hpos := List.length_pos_iff.mpr hne
    rw [List.dropLast_eq_take, List.prefix_take_iff, List.length_map]
    constructor
    · intro h
      exact ⟨h.1, by omega⟩
    · intro h
      exact ⟨h.1, by omega⟩
  have hcourse : placed.map Prod.fst <+: words →
      ((∃ e, Course true (Draft.blank side) placed e) ↔ Admissible side placed) := by
    intro hpre
    have hlength := hpre.length_le
    rw [List.length_map] at hlength
    refine exists_course_iff (fun x hx => ?_) (Nat.le_trans hlength hroom)
    exact hle x.1 (hpre.subset (List.mem_map.mpr ⟨x, hx, rfl⟩))
  rw [Draft.mem_courses_iff]
  constructor
  · intro h
    obtain ⟨hne, hpre, hless, hadm⟩ := h
    exact ⟨hne, (hstarts hne).mpr ⟨hpre, hless⟩, (hcourse hpre).mpr hadm⟩
  · intro h
    obtain ⟨hne, hdrop, hex⟩ := h
    obtain ⟨hpre, hless⟩ := (hstarts hne).mp hdrop
    exact ⟨hne, hpre, hless, (hcourse hpre).mp hex⟩

theorem partialLayouts_eq (hle : ∀ word ∈ words, word.length ≤ side)
    (hroom : words.length ≤ maxOwners) : partialLayouts side words =
      ↑((Draft.blank side).courses true words.dropLast).toFinset := by
  ext placed
  rw [mem_partialLayouts_iff hle hroom, Finset.mem_coe, List.mem_toFinset]

/-- There are as many partial layouts as partial courses. -/
theorem ncard_partialLayouts (hle : ∀ word ∈ words, word.length ≤ side)
    (hroom : words.length ≤ maxOwners) :
    (partialLayouts side words).ncard = (Draft.blank side).partials true words := by
  rw [partialLayouts_eq hle hroom, Set.ncard_coe_finset,
    List.toFinset_card_of_nodup (Draft.nodup_courses ..), Draft.partials]

end Partial

namespace Placer

section Fresh

variable {words : List String} {side : Nat} {budget : Budget} {clock : Clock} {stream : Keystream}

/-- The ordered words are as many as the words, and none is longer than the side. -/
theorem ordered_of_checkWords (hwords : checkWords words side = .ok ()) :
    (orderWords words).length = words.length ∧ ∀ word ∈ orderWords words, word.length ≤ side :=
  ⟨(orderWords_perm words).length_eq, fun word hword =>
    (bounds_of_checkWords hwords word ((orderWords_perm words).mem_iff.mp hword)).2⟩

/-- A first run on accepted words that is exhausted proves that they have no admissible layout. -/
theorem not_nonempty_layouts_of_exhausted (hwords : checkWords words side = .ok ())
    (hexhausted : ((onSide words side budget).run clock stream).1 = .exhausted) :
    ¬ (layouts side (orderWords words)).Nonempty := by
  intro hfull
  obtain ⟨placed, hplaced, hadm⟩ := hfull
  have hblank : (Draft.blank side).Records side [] := .blank side
  exact not_admissible_of_exhausted budget clock hexhausted hblank (by simp)
    (ordered_of_checkWords hwords).2 hplaced hadm

variable (hwords : checkWords words side = .ok ()) (hfew : words.length ≤ maxOwners)

include hwords hfew

/-- A first run on accepted words stays in reach of what can be counted. -/
theorem reach_walk_le (budget : Budget) (stream : Keystream) :
    ((onSide words side budget).walk stream).reach (orderWords words).length ≤ maxOwners := by
  show max 0 (0 + (orderWords words).length) ≤ _
  rw [(ordered_of_checkWords hwords).1]
  omega

/-- A first run on accepted words never places more words than can be counted. -/
theorem deepest_run_le (budget : Budget) (clock : Clock) (stream : Keystream) :
    ((onSide words side budget).run clock stream).2.1.statistics.deepest ≤ maxOwners :=
  Nat.le_trans (deepest_placeWords_le budget clock (Draft.sound_blank side).counted)
    (reach_walk_le hwords hfew budget stream)

/-- A first run on accepted words leaves a sound draft. -/
theorem sound_run_of_accepted (budget : Budget) (clock : Clock) (stream : Keystream) :
    ((onSide words side budget).run clock stream).2.1.draft.Sound :=
  (sound_run (Draft.sound_blank side) (deepest_run_le hwords hfew budget clock stream)).1

/-- A first run on accepted words that is solved records an admissible layout. -/
theorem exists_layout_of_solved
    (hsolved : ((onSide words side budget).run clock stream).1 = .solved) :
    ∃ placed ∈ layouts side (orderWords words),
      ((onSide words side budget).run clock stream).2.1.draft.layout.entries.map
        PlacedWord.record = placed.map (recordAt side side) := by
  have hblank := Draft.sound_blank side
  obtain ⟨hlength, hle⟩ := ordered_of_checkWords hwords
  obtain ⟨⟨placed, hplaced, hcourse⟩, -⟩ :=
    course_run_of_solved hblank (deepest_run_le hwords hfew budget clock stream) hsolved
  have hplaced : placed.map Prod.fst = orderWords words := hplaced
  refine ⟨placed, ⟨hplaced, ?_⟩, (hcourse.records (.blank side)).entries⟩
  refine (exists_course_iff ?_ ?_).mp ⟨_, hcourse⟩
  · intro x hx
    exact hle x.1 (hplaced ▸ List.mem_map.mpr ⟨x, hx, rfl⟩)
  · rw [← List.length_map (f := Prod.fst), hplaced, hlength]
    exact hfew

/-- A first run on accepted words is not abandoned if its budget allows a backtrack, and one for
each partial layout, and its time is not limited. -/
theorem not_abandoned_of_le (htime : budget.timeLimit = none) (hpos : 0 < budget.maxBacktracks)
    (hmore : (partialLayouts side (orderWords words)).ncard ≤ budget.maxBacktracks) :
    ((onSide words side budget).run clock stream).1 ≠ .abandoned := by
  obtain ⟨hlength, hle⟩ := ordered_of_checkWords hwords
  rw [ncard_partialLayouts hle (hlength ▸ hfew)] at hmore
  have hreach := reach_walk_le hwords hfew budget stream
  apply (backtracks_placeWords budget clock (Draft.sound_blank side) hreach).2 htime hpos
  show 0 + _ ≤ _
  rw [Nat.zero_add]
  exact hmore

/-- In particular if its budget is larger than the number of partial layouts. -/
theorem not_abandoned_of_lt (htime : budget.timeLimit = none)
    (hmore : (partialLayouts side (orderWords words)).ncard < budget.maxBacktracks) :
    ((onSide words side budget).run clock stream).1 ≠ .abandoned :=
  not_abandoned_of_le hwords hfew htime (Nat.zero_lt_of_lt hmore) (Nat.le_of_lt hmore)

end Fresh

/-- **A run decides whether there is a layout.** A first run of an accepted placer that is solved
records an admissible layout of the ordered words; one that is exhausted proves that there is none.
There are finitely many partial layouts, and with a budget larger than their number and no limit on
time, the run is solved if there is an admissible layout and exhausted if there is none. Neither the
clock nor the stream plays a part. -/
theorem run_decides {words : List String} {side : Nat} {budget : Budget} {p : Placer}
    (h : ofWordsOnSide words side budget = .ok p) (hfew : words.length < 2 ^ 32) (clock : Clock)
    (stream : Keystream) :
    let outcome := (p.run clock stream).1
    let d := (p.run clock stream).2.1.draft
    let full := layouts side (orderWords words)
    let partly := partialLayouts side (orderWords words)
    (outcome = .solved → ∃ placed ∈ full,
      d.layout.entries.map PlacedWord.record = placed.map (recordAt side side)) ∧
    (outcome = .exhausted → ¬ full.Nonempty) ∧
    partly.Finite ∧
    (budget.timeLimit = none → partly.ncard < budget.maxBacktracks →
      (full.Nonempty → outcome = .solved) ∧ (¬ full.Nonempty → outcome = .exhausted)) := by
  intro outcome d full partly
  obtain ⟨hwords, rfl⟩ := ofWordsOnSide_eq_ok_iff.mp h
  have hroom : words.length ≤ maxOwners := Nat.le_sub_one_of_lt hfew
  obtain ⟨hlength, hle⟩ := ordered_of_checkWords hwords
  refine ⟨exists_layout_of_solved hwords hroom, not_nonempty_layouts_of_exhausted hwords, ?_, ?_⟩
  · rw [show partly = _ from partialLayouts_eq hle (hlength ▸ hroom)]
    exact Finset.finite_toSet _
  · intro htime hmore
    cases houtcome : outcome with
    | solved =>
      obtain ⟨placed, hplaced, -⟩ := exists_layout_of_solved hwords hroom houtcome
      exact ⟨fun _ => rfl, fun hnone => absurd ⟨placed, hplaced⟩ hnone⟩
    | exhausted =>
      have hnone := not_nonempty_layouts_of_exhausted hwords houtcome
      exact ⟨fun hfull => absurd hfull hnone, fun _ => rfl⟩
    | abandoned => exact absurd houtcome (not_abandoned_of_lt hwords hroom htime hmore)

/-- Words that have no letter in common have no layout, and a run finds that out. -/
theorem run_decides_disjoint_words :
    ¬ (layouts 4 (orderWords ["AB", "CD"])).Nonempty ∧
      ((onSide ["AB", "CD"] 4 ⟨10, none⟩).run .still (.ofSeed 1)).1 = .exhausted := by
  have haccepted : ofWordsOnSide ["AB", "CD"] 4 ⟨10, none⟩ =
      .ok (onSide ["AB", "CD"] 4 ⟨10, none⟩) := by cbv
  obtain ⟨-, hnone, -, hdecides⟩ := run_decides haccepted (by decide) .still (.ofSeed 1)
  have hempty : ¬ (layouts 4 (orderWords ["AB", "CD"])).Nonempty := hnone (by cbv)
  have hcount : (partialLayouts 4 (orderWords ["AB", "CD"])).ncard < 10 := by
    have hordered : orderWords ["AB", "CD"] = ["AB", "CD"] := by cbv
    rw [hordered, ncard_partialLayouts (by decide) (by decide)]
    cbv
  exact ⟨hempty, (hdecides rfl hcount).2 hempty⟩

end Placer

end Crossword
