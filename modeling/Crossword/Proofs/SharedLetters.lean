import Crossword.Proofs.CampaignSteps
import Crossword.Proofs.Exhaustion
import Mathlib

/-!
# Shared letters

Words cross where they have a letter in common. So a search that places all its words has found one
for each word but the first in some word before it (`sharesLetter_of_solved`, by induction on the
words, whatever the counts). Two words need no more than that: with the longer one in the middle of
a grid of twice its length, the other can be written through any of its letters
(`exists_layout_of_sharesLetter`). And a search for two words takes at most two of them back, one
for each way to centre the first, so a budget of two lets it find out.

Main result: `Generator.shared_letters_decide`.
-/

namespace Crossword

/-- Holds if two words have a letter in common. -/
def SharesLetter (v w : String) : Prop := ∃ c, c ∈ v.toList ∧ c ∈ w.toList

instance (v w : String) : Decidable (SharesLetter v w) :=
  decidable_of_iff (v.toList.any fun c => w.toList.contains c) (by simp [SharesLetter])

/-- Holds if each word of a list, except the first, has a letter in common with an earlier one. -/
def Chained (words : List String) : Prop :=
  ∀ pre word post, words = pre ++ word :: post → pre ≠ [] → ∃ v ∈ pre, SharesLetter v word

theorem SharesLetter.symm {v w : String} (h : SharesLetter v w) : SharesLetter w v := by
  obtain ⟨c, hv, hw⟩ := h
  exact ⟨c, hw, hv⟩

/-- Two words are chained if they have a letter in common. -/
theorem sharesLetter_of_chained {x y : String} (h : Chained [x, y]) : SharesLetter x y := by
  obtain ⟨v, hv, hshares⟩ := h [x] y [] rfl (List.cons_ne_nil x [])
  obtain rfl := List.mem_singleton.mp hv
  exact hshares

/-! ## What a solved search says -/

/-- A word that is written across a placed one has a letter in common with it. -/
theorem sharesLetter_of_mem_crossings {l : Layout} {g : Grid} {word : String} {a : Anchor}
    (ha : a ∈ l.crossings g word) : ∃ v ∈ l.entries.map (·.word), SharesLetter v word := by
  obtain ⟨-, entry, he, q, c, hq, hc⟩ := Layout.mem_crossings_iff_letterAt?.mp ha
  obtain ⟨i, hi, -, -⟩ := Anchor.letterAt?_eq_some_iff.mp hc
  rw [entry.lettered_eq] at hq
  exact ⟨entry.word, List.mem_map_of_mem he, c, (List.of_mem_zip hq).2, List.mem_of_getElem? hi⟩

/-- A search that succeeds has found for each of its words, but for the first of all, a letter in
common with a word placed before it. -/
theorem sharesLetter_of_solved {budget : Budget} {clock : Clock} {first : Bool}
    {words : List String} {w v : Walk} (h : placeWords budget clock first words w = (.solved, v))
    (hcounted : w.draft.Counted) {pre : List String} {word : String} {post : List String}
    (hwords : words = pre ++ word :: post) (hlater : first = true → pre ≠ []) :
    ∃ u ∈ w.draft.layout.entries.map (·.word) ++ pre, SharesLetter u word := by
  induction words generalizing first w pre with
  | nil => simp at hwords
  | cons word' rest ih =>
    rcases placeWords_end budget clock first word' rest w with ⟨-, heq⟩ | ⟨-, hend⟩
    · rw [heq] at h
      cases h
    · rw [h] at hend
      cases hend with
      | @solved tried untried a u _ p hanchors htried hp hnext =>
        have hvisit := Visit.of_append hanchors htried
        cases pre with
        | nil =>
          -- the word itself is placed now, at an anchor where it crosses a placed one
          obtain ⟨rfl, -⟩ := List.cons.inj hwords
          have ha : a ∈ w.draft.choices first word' := (w.mem_tries first word').mp hvisit.mem
          have hfirst : first = false := Bool.eq_false_iff.mpr fun hfirst => hlater hfirst rfl
          rw [hfirst] at ha
          rw [List.append_nil]
          exact sharesLetter_of_mem_crossings ha
        | cons word'' pre =>
          obtain ⟨rfl, hrest⟩ := List.cons.inj hwords
          obtain ⟨hu, hcommit, -⟩ := (restoring_fades _).visit budget clock hcounted hvisit hp
            (Nat.le_refl _)
          have hshares := ih hnext hcommit hrest Bool.noConfusion
          rw [Walk.draft_place, Draft.layout_commit, Layout.entries_push, hu.layout,
            List.map_append, List.map_singleton, List.append_assoc] at hshares
          exact hshares

/-- The words of a first run that is solved are chained. -/
theorem Placer.chained_of_solved {words : List String} {side : Nat} {budget : Budget}
    {clock : Clock} {stream : Keystream}
    (h : ((onSide words side budget).run clock stream).1 = .solved) :
    Chained (orderWords words) := by
  intro pre word post hwords hne
  exact sharesLetter_of_solved (Prod.ext h rfl) (Draft.sound_blank side).counted hwords
    fun _ => hne

/-! ## Two words -/

section Pair

variable {side : Nat} {x y : String}

/-- A word across and a word down through one of its squares have only that square in common. -/
theorem letters_of_crossing {row col i j : Nat} {q : Position} {c d : Char}
    (hx : (⟨row, col, .across⟩ : Anchor).letterAt? x q = some d)
    (hy : (anchorThrough ⟨row, col + i⟩ j .down).letterAt? y q = some c) :
    x.toList[i]? = some d ∧ y.toList[j]? = some c := by
  obtain ⟨k, hk, hrow, hcol⟩ := Anchor.letterAt?_eq_some_iff.mp hx
  obtain ⟨m, hm, hrow', hcol'⟩ := Anchor.letterAt?_eq_some_iff.mp hy
  simp only [anchorThrough, Anchor.rowAt, Anchor.colAt, Orientation.rowStep, Orientation.colStep]
    at hrow hcol hrow' hcol'
  obtain rfl : k = i := by omega
  obtain rfl : m = j := by omega
  exact ⟨hk, hm⟩

/-- On a side of twice the length of a word in its middle, there is room for a word that is no
longer, down through any square of the first. -/
theorem staysInside_through_centre {i j : Nat} (hle : y.length ≤ x.length)
    (hside : 2 * x.length ≤ side) (hi : i < x.length) (hj : j < y.length) :
    (anchorThrough ⟨side / 2, (side - x.length) / 2 + i⟩ j .down).StaysInside y side side := by
  intro k hk
  refine ⟨⟨side / 2 - j + k, (side - x.length) / 2 + i⟩, Anchor.square?_eq_some_iff.mpr ?_⟩
  simp only [anchorThrough, Anchor.rowAt, Anchor.colAt, Orientation.rowStep, Orientation.colStep]
  omega

/-- Two words with a letter in common have a layout on a side of twice the length of the longer one:
that one across, the other one down through the letter. -/
theorem exists_layout_of_sharesLetter (hle : y.length ≤ x.length) (hside : 2 * x.length ≤ side)
    (h : SharesLetter x y) : (layouts side [x, y]).Nonempty := by
  obtain ⟨c, hx, hy⟩ := h
  obtain ⟨i, hi⟩ := List.mem_iff_getElem?.mp hx
  obtain ⟨j, hj⟩ := List.mem_iff_getElem?.mp hy
  have hilt : i < x.length := String.length_toList ▸ (List.getElem?_eq_some_iff.mp hi).1
  have hjlt : j < y.length := String.length_toList ▸ (List.getElem?_eq_some_iff.mp hj).1
  let a : Anchor := ⟨(side / 2 : Nat), ((side - x.length) / 2 : Nat), .across⟩
  let q : Position := ⟨side / 2, (side - x.length) / 2 + i⟩
  let b : Anchor := anchorThrough q j .down
  have hfirst : Admissible side [(x, a)] :=
    admissible_singleton_iff.mpr (List.mem_cons_self ..)
  have hcrosses : (sheet side [(x, a)]).Crosses y b := by
    have hstays : b.StaysInside y side side := staysInside_through_centre hle hside hilt hjlt
    have hput : b.letterAt? y q = some c := letterAt?_anchorThrough hj .down
    have hmeets : a.letterAt? x q = some c := Anchor.letterAt?_eq_some_iff.mpr ⟨i, hi, by
      simp [a, q, Anchor.rowAt, Anchor.colAt, Orientation.rowStep, Orientation.colStep]⟩
    refine ⟨hstays, fun p d e hd he => ?_, q, c, c, hput, ?_⟩
    · -- the letter that is met is the common one
      obtain ⟨z, hz, he⟩ := exists_of_get?_sheet he
      obtain rfl := List.mem_singleton.mp hz
      obtain ⟨he, hd⟩ := letters_of_crossing he hd
      rw [hi] at he
      rw [hj] at hd
      exact Option.some.inj (hd.symm.trans he)
    · exact hfirst.agree.get?_sheet (List.mem_singleton.mpr rfl) hmeets (hstays.inside hput)
  refine ⟨[(x, a)] ++ [(y, b)], rfl, admissible_append_singleton_iff.mpr ⟨hfirst, ?_⟩⟩
  rw [Extends, if_neg (List.cons_ne_nil (x, a) [])]
  exact hcrosses

/-- Of two words, only the first one is placed in a partial layout, in one of two ways. -/
theorem ncard_partialLayouts_pair_le (side : Nat) (x y : String) :
    (partialLayouts side [x, y]).ncard ≤ 2 := by
  have hsub : partialLayouts side [x, y] ⊆
      ↑(((centres side x).map fun a => [(x, a)]).toFinset) := by
    intro placed h
    obtain ⟨hne, hstarts, hless, hadm⟩ := h
    rw [Finset.mem_coe, List.mem_toFinset, List.mem_map]
    match placed with
    | [] => exact absurd rfl hne
    | [(word, a)] =>
      obtain rfl : word = x := by simpa using hstarts
      exact ⟨a, admissible_singleton_iff.mp hadm, rfl⟩
    | _ :: _ :: rest => simp at hless
  calc (partialLayouts side [x, y]).ncard
      ≤ (((centres side x).map fun a => [(x, a)]).toFinset : Set _).ncard :=
        Set.ncard_le_ncard hsub (Finset.finite_toSet _)
    _ ≤ ((centres side x).map fun a => [(x, a)]).length := by
        rw [Set.ncard_coe_finset]
        exact List.toFinset_card_le _
    _ = 2 := rfl

/-- Of two words, the longer one comes first. -/
theorem exists_orderWords_pair (v w : String) : ∃ x y, orderWords [v, w] = [x, y] ∧
    y.length ≤ x.length ∧ (SharesLetter x y ↔ SharesLetter v w) := by
  by_cases hle : w.length ≤ v.length
  · exact ⟨v, w, by simp [orderWords, List.mergeSort, hle], hle, Iff.rfl⟩
  · refine ⟨w, v, ?_, Nat.le_of_not_le hle, ⟨.symm, .symm⟩⟩
    simp [orderWords, List.mergeSort, hle]

end Pair

/-- The usual side is twice the length of each word, or more. -/
theorem Grid.two_mul_length_le_sideFor {words : List String} {word : String} (h : word ∈ words) :
    2 * word.length ≤ sideFor words := by
  have hle : word.length ≤ longest words := by
    unfold longest
    rw [List.foldl_eq_foldr]
    exact List.le_max_of_le (List.mem_map_of_mem h) (Nat.le_refl _)
  show 2 * word.length ≤ longest words * 2
  omega

/-- Two different words with letters are accepted on the usual side. -/
theorem checkWords_pair {v w : String} (hne : v ≠ w) (hv : v ≠ "") (hw : w ≠ "") :
    checkWords [v, w] (Grid.sideFor [v, w]) = .ok () := by
  refine checkWords_eq_ok_iff.mpr ⟨List.cons_ne_nil v [w], fun word hword => ⟨?_, ?_⟩, by
    simp [hne]⟩
  · rcases List.mem_pair.mp hword with rfl | rfl
    · exact hv
    · exact hw
  · have htwice := Grid.two_mul_length_le_sideFor hword
    omega

/-- A first run for two words on the usual side, with a budget of two backtracks and no limit on
time, is solved if they have a letter in common, else exhausted. -/
theorem Placer.run_pair {v w : String} {budget : Budget} (hne : v ≠ w) (hv : v ≠ "") (hw : w ≠ "")
    (htime : budget.timeLimit = none) (hbudget : 2 ≤ budget.maxBacktracks) (clock : Clock)
    (stream : Keystream) :
    let outcome := ((onSide [v, w] (Grid.sideFor [v, w]) budget).run clock stream).1
    (SharesLetter v w → outcome = .solved) ∧ (¬ SharesLetter v w → outcome = .exhausted) := by
  intro outcome
  obtain ⟨x, y, hordered, hle, hshares⟩ := exists_orderWords_pair v w
  have hwords := checkWords_pair hne hv hw
  have hfew : [v, w].length ≤ maxOwners := by
    show 2 ≤ maxOwners
    decide
  have hmore : (partialLayouts (Grid.sideFor [v, w]) (orderWords [v, w])).ncard ≤
      budget.maxBacktracks := by
    rw [hordered]
    exact Nat.le_trans (ncard_partialLayouts_pair_le ..) hbudget
  have hopen : outcome ≠ .abandoned :=
    not_abandoned_of_le hwords hfew htime (Nat.lt_of_lt_of_le Nat.two_pos hbudget) hmore
  refine ⟨fun h => ?_, fun h => ?_⟩
  · -- a layout exists, so the run cannot be exhausted
    have hx : x ∈ [v, w] :=
      (orderWords_perm [v, w]).mem_iff.mp (hordered ▸ List.mem_cons_self ..)
    have hfull : (layouts (Grid.sideFor [v, w]) (orderWords [v, w])).Nonempty := by
      rw [hordered]
      exact exists_layout_of_sharesLetter hle (Grid.two_mul_length_le_sideFor hx) (hshares.mpr h)
    cases houtcome : outcome with
    | solved => rfl
    | exhausted => exact absurd hfull (not_nonempty_layouts_of_exhausted hwords houtcome)
    | abandoned => exact absurd houtcome hopen
  · cases houtcome : outcome with
    | solved =>
      have hchained : Chained (orderWords [v, w]) := chained_of_solved houtcome
      rw [hordered] at hchained
      exact absurd (hshares.mp (sharesLetter_of_chained hchained)) h
    | exhausted => rfl
    | abandoned => exact absurd houtcome hopen

namespace Generator

variable {g : Generator} {words : List String}

/-- The words of a puzzle are chained, in the order in which they are placed. -/
theorem chained_of_generate {clocks : Clocks} {puzzle : Puzzle}
    (h : (g.generate clocks words).1 = .ok puzzle) : Chained (orderWords (g.prepared words)) := by
  obtain ⟨-, _, _, ⟨i, stream, placer, left, hrun, -⟩, -⟩ := found_of_generate h
  exact Placer.chained_of_solved (congrArg Prod.fst hrun)

/-- **Shared letters decide.** If a puzzle is returned, each word after the first one placed has a
letter in common with one placed before it. Two different words with letters, on the usual side,
with a budget of two backtracks or more and no limit on time, make a puzzle if they have a letter in
common; if not, they are reported as infeasible after the first attempt, in which one of the two was
placed. The seeds play no part. -/
theorem shared_letters_decide (hvalid : g.config.check = .ok ()) (clocks : Clocks)
    (words : List String) :
    (∀ puzzle, (g.generate clocks words).1 = .ok puzzle →
      Chained (orderWords (g.prepared words))) ∧
    (∀ v w, g.prepared words = [v, w] → v ≠ w → v ≠ "" → w ≠ "" →
      g.config.gridSide = none → g.config.timeBudget = none → 2 ≤ g.config.backtrackBudget →
      (SharesLetter v w → ∃ puzzle, (g.generate clocks words).1 = .ok puzzle) ∧
      (¬ SharesLetter v w → (g.generate clocks words).1 = .error (.infeasible 1 1 2))) := by
  refine ⟨fun puzzle h => chained_of_generate h, ?_⟩
  intro v w hprepared hne hv hw hside htime hbudget
  have hsides : g.side words = Grid.sideFor [v, w] := by
    unfold side Config.sideFor
    rw [hside, hprepared]
    rfl
  have hwords : checkWords (g.prepared words) (g.side words) = .ok () := by
    rw [hprepared, hsides]
    exact checkWords_pair hne hv hw
  have hlength : words.length = 2 := by
    rw [← length_prepared g words, hprepared]
    rfl
  have hfew : words.length ≤ maxOwners := by
    rw [hlength]
    decide
  have houtcome : ∀ i, (SharesLetter v w → g.outcome clocks words i = .solved) ∧
      (¬ SharesLetter v w → g.outcome clocks words i = .exhausted) := by
    intro i
    unfold outcome trial
    rw [hprepared, hsides]
    exact Placer.run_pair hne hv hw htime hbudget (clocks i) _
  have hmax := (Config.one_le_of_check hvalid).1
  have hone := (lastAttempt_spec clocks words hmax).1.1
  rw [generate_of_accepted clocks hvalid hwords hfew]
  refine ⟨fun h => ?_, fun h => ?_⟩
  · refine exists_result_eq_ok_iff.mpr ⟨?_, 1, Nat.le_refl 1, hone, (houtcome 1).1 h⟩
    rw [(houtcome _).1 h]
    exact Outcome.noConfusion
  · have hlast : g.lastAttempt clocks words = 1 :=
      Nat.le_antisymm (lastAttempt_le hmax (Nat.le_refl 1) (Or.inl ((houtcome 1).2 h))) hone
    have hresult : g.result clocks words (g.lastAttempt clocks words) =
        .error (.infeasible 1 (g.totals clocks words 1).deepest 2) := by
      rw [hlast]
      exact result_eq_infeasible_iff.mpr ⟨(houtcome 1).2 h, rfl, rfl, hlength.symm⟩
    -- some of the two words has been placed, but not both
    have hplaced := infeasible_eq hvalid hfew (by
      rw [generate_of_accepted clocks hvalid hwords hfew]
      exact hresult)
    rw [hresult, show (g.totals clocks words 1).deepest = 1 by omega]

/-- Two words that cross, and two that cannot. -/
theorem shared_letters_decide_two_words :
    (∃ puzzle, ((⟨.usual, .ofSeed 42⟩ : Generator).generate .still ["ABC", "CDA"]).1 =
      .ok puzzle) ∧
    ((⟨.usual, .ofSeed 42⟩ : Generator).generate .still ["AB", "CD"]).1 =
      .error (.infeasible 1 1 2) := by
  have hvalid : (⟨.usual, .ofSeed 42⟩ : Generator).config.check = .ok () := rfl
  have hbudget : 2 ≤ Config.usual.backtrackBudget := by
    show 2 ≤ 200000
    omega
  have hcrossing : SharesLetter "ABC" "CDA" := ⟨'A', by decide, by decide⟩
  have happart : ¬ SharesLetter "AB" "CD" := by decide
  obtain ⟨-, hcross⟩ := shared_letters_decide hvalid .still ["ABC", "CDA"]
  obtain ⟨-, hdisjoint⟩ := shared_letters_decide hvalid .still ["AB", "CD"]
  exact ⟨(hcross "ABC" "CDA" rfl (by decide) (by decide) (by decide) rfl rfl hbudget).1 hcrossing,
    (hdisjoint "AB" "CD" rfl (by decide) (by decide) (by decide) rfl rfl hbudget).2 happart⟩

end Generator

end Crossword
