import Mathlib
import Crossword.Clues
import Crossword.Proofs.Outcomes

/-!
# Looking up clues

Clues are kept under the words in lower case, and a later word takes the place of an earlier one. So
a word is shown with the clue of the last word that is the same as itself in lower case
(`Clues.find?_insertAll`). The words that are looked up are those in the letter case that is asked
for. They have the lower case of the given words as long as the two cases of each letter lead to
each other (`Text.paired`).

Main results: `clues_by_lower_case`, which clue is shown for which word; and `clues_not_kept`, that
it need not be the word's own.
-/

namespace Crossword

/-! ## Letter case -/

namespace Text

/-- Holds of the characters whose two cases lead to each other: the upper case has the same lower
case, and the lower case has the same upper case. A sigma is not one of them, since its lower case
depends on where it stands. -/
def paired (c : Char) : Bool :=
  decide ((upperChar c).flatMap lowerChar = lowerChar c) &&
    decide ((lowerChar c).flatMap upperChar = upperChar c) &&
    !(c :: upperChar c).contains 'Σ'

/-- Without capital sigmas, lower case is found character by character. -/
theorem lowerAfter_of_not_mem {before letters : List Char} (h : 'Σ' ∉ letters) :
    lowerAfter before letters = letters.flatMap lowerChar := by
  induction letters generalizing before with
  | nil => rfl
  | cons c rest ih =>
    rw [List.mem_cons, not_or] at h
    obtain ⟨hc, hrest⟩ := h
    rw [lowerAfter, if_neg (Ne.symm hc), ih hrest, List.flatMap_cons]

section Paired

variable {word : String} (h : ∀ c ∈ word.toList, paired c = true)

include h

theorem lower_eq_flatMap : lower word = String.ofList (word.toList.flatMap lowerChar) := by
  rw [lower, lowerAfter_of_not_mem]
  intro hsigma
  have hpaired := h 'Σ' hsigma
  simp [paired] at hpaired

/-- The upper case of paired characters has the same lower case. -/
theorem lower_upper : lower (upper word) = lower word := by
  have hsigma : 'Σ' ∉ word.toList.flatMap upperChar := by
    intro hmem
    obtain ⟨c, hc, hupper⟩ := List.mem_flatMap.mp hmem
    have hpaired := h c hc
    simp [paired, hupper] at hpaired
  rw [lower_eq_flatMap h, lower, upper, String.toList_ofList, lowerAfter_of_not_mem hsigma,
    List.flatMap_assoc]
  congr 1
  refine List.flatMap_congr fun c hc => ?_
  have hpaired := h c hc
  simp only [paired, Bool.and_eq_true, decide_eq_true_eq] at hpaired
  exact hpaired.1.1

/-- The lower case of paired characters has the same upper case. -/
theorem upper_lower : upper (lower word) = upper word := by
  rw [lower_eq_flatMap h, upper, upper, String.toList_ofList, List.flatMap_assoc]
  congr 1
  refine List.flatMap_congr fun c hc => ?_
  have hpaired := h c hc
  simp only [paired, Bool.and_eq_true, decide_eq_true_eq] at hpaired
  exact hpaired.1.2

end Paired

/-- All characters of ASCII are paired. -/
theorem paired_of_ascii {c : Char} (h : c.toNat < 128) : paired c = true := by
  have hall : ∀ n < 128, paired (Char.ofNat n) = true := by decide +kernel
  have hc := hall c.toNat h
  rwa [Char.ofNat_toNat] at hc

end Text

/-! ## The last word with the same lower case -/

/-- Holds of the place of a word in a list that is the same as a given one in lower case, if no
later word is. -/
def LastAlike (words : List String) (word : String) (j : Nat) : Prop :=
  (∃ other, words[j]? = some other ∧ Text.lower other = Text.lower word) ∧
    ∀ k other, j < k → words[k]? = some other → Text.lower other ≠ Text.lower word

section LastAlike

variable {words : List String} {first word : String} {j : Nat}

theorem LastAlike.cons (h : LastAlike words word j) : LastAlike (first :: words) word (j + 1) := by
  obtain ⟨hat, hlater⟩ := h
  refine ⟨hat, fun k other hk hother => ?_⟩
  cases k with
  | zero => omega
  | succ k => exact hlater k other (by omega) hother

theorem lastAlike_head (hfirst : Text.lower first = Text.lower word)
    (hlater : ∀ other ∈ words, Text.lower other ≠ Text.lower word) :
    LastAlike (first :: words) word 0 := by
  refine ⟨⟨first, rfl, hfirst⟩, fun k other hk hother => ?_⟩
  cases k with
  | zero => omega
  | succ k =>
    rw [List.getElem?_cons_succ] at hother
    exact hlater other (List.mem_of_getElem? hother)

end LastAlike

namespace Clues

/-- Holds if each word of a list, once it is prepared, is shown with the clue at its own place. -/
def Keeps (c : Clues) (policy : CasePolicy) (words clues : List String) : Prop :=
  ∀ (i : Nat) (word : String), words[i]? = some word →
    clues[i]? = some (c.clueFor (policy.apply word))

theorem insertAll_cons (c : Clues) (pair : String × String) (later : List (String × String)) :
    c.insertAll (pair :: later) = (c.insert pair.1 pair.2).insertAll later := rfl

/-- Clues for other words do not change what is found for a word. -/
theorem find?_insertAll_of_forall_ne {pairs : List (String × String)} {word : String}
    (h : ∀ other ∈ pairs.map Prod.fst, Text.lower other ≠ Text.lower word) (c : Clues) :
    (c.insertAll pairs).find? word = c.find? word := by
  induction pairs generalizing c with
  | nil => rfl
  | cons pair later ih =>
    rw [List.map_cons, List.forall_mem_cons] at h
    rw [insertAll_cons, ih h.2, find?_insert, if_neg (Ne.symm h.1)]

/-- What is found for a word is the clue of the last word that is the same in lower case. -/
theorem find?_insertAll {pairs : List (String × String)} {word other : String} {i : Nat}
    (hi : (pairs.map Prod.fst)[i]? = some other) (hsame : Text.lower other = Text.lower word)
    (c : Clues) : ∃ j, i ≤ j ∧ LastAlike (pairs.map Prod.fst) word j ∧ ∃ clue,
      (pairs.map Prod.snd)[j]? = some clue ∧ (c.insertAll pairs).find? word = some clue := by
  induction pairs generalizing i other c with
  | nil => cases hi
  | cons pair later ih =>
    rw [insertAll_cons]
    by_cases hlater : ∃ (k : Nat) (w : String), (later.map Prod.fst)[k]? = some w ∧
        Text.lower w = Text.lower word
    · -- the last such word is among the later ones, and not before the one that is given
      obtain ⟨k, w, hk, hw, hle⟩ : ∃ (k : Nat) (w : String), (later.map Prod.fst)[k]? = some w ∧
          Text.lower w = Text.lower word ∧ i ≤ k + 1 := by
        cases i with
        | zero =>
          obtain ⟨k, w, hk, hw⟩ := hlater
          exact ⟨k, w, hk, hw, Nat.zero_le _⟩
        | succ i => exact ⟨i, other, hi, hsame, Nat.le_refl _⟩
      obtain ⟨j, hj, hlast, hclue⟩ := ih hk hw (c.insert pair.1 pair.2)
      exact ⟨j + 1, by omega, hlast.cons, hclue⟩
    · have hnone : ∀ w ∈ later.map Prod.fst, Text.lower w ≠ Text.lower word := by
        intro w hw hsame
        obtain ⟨k, hk⟩ := List.mem_iff_getElem?.mp hw
        exact hlater ⟨k, w, hk, hsame⟩
      cases i with
      | zero =>
        obtain rfl : pair.1 = other := Option.some.inj hi
        refine ⟨0, Nat.le_refl _, lastAlike_head hsame hnone, pair.2, rfl, ?_⟩
        rw [find?_insertAll_of_forall_ne hnone, find?_insert, if_pos hsame.symm]
      | succ i => exact absurd ⟨i, other, hi, hsame⟩ hlater

/-- The clue that is shown for a word of the list is that of the last word that is the same in
lower case. -/
theorem clueFor_insertAll {words clues : List String} (hlength : words.length = clues.length)
    {i : Nat} {word shown : String} (hi : words[i]? = some word)
    (hshown : Text.lower shown = Text.lower word) :
    ∃ j, i ≤ j ∧ LastAlike words word j ∧
      clues[j]? = some ((empty.insertAll (words.zip clues)).clueFor shown) := by
  have hwords : (words.zip clues).map Prod.fst = words :=
    List.map_fst_zip (Nat.le_of_eq hlength)
  have hclues : (words.zip clues).map Prod.snd = clues :=
    List.map_snd_zip (Nat.le_of_eq hlength.symm)
  rw [← hwords] at hi
  obtain ⟨j, hj, hlast, clue, hclue, hfind⟩ := find?_insertAll hi rfl empty
  rw [hwords] at hlast
  rw [hclues] at hclue
  refine ⟨j, hj, hlast, ?_⟩
  rw [hclue, clueFor, find?, hshown, ← find?, hfind]
  rfl

end Clues

/-- Where the words are accepted in upper case, no two words of paired characters are the same in
lower case. -/
theorem eq_of_lower_eq {words : List String} {side i j : Nat} {word other : String}
    (haccepted : checkWords (prepareWords .upper words) side = .ok ())
    (hpaired : ∀ word ∈ words, ∀ letter ∈ word.toList, Text.paired letter = true)
    (hi : words[i]? = some word) (hj : words[j]? = some other)
    (hsame : Text.lower other = Text.lower word) : i = j := by
  have hupper : Text.upper other = Text.upper word := by
    rw [← Text.upper_lower (hpaired other (List.mem_of_getElem? hj)), hsame,
      Text.upper_lower (hpaired word (List.mem_of_getElem? hi))]
  have hlt : i < (prepareWords .upper words).length := by
    rw [prepareWords, List.length_map]
    exact (List.getElem?_eq_some_iff.mp hi).1
  refine (List.getElem?_inj hlt (checkWords_eq_ok_iff.mp haccepted).2.2).mp ?_
  rw [prepareWords, List.getElem?_map, List.getElem?_map, hi, hj]
  exact congrArg some hupper.symm

/-- **The clue that is shown.** As many clues as words can be paired with them. The clue that is
shown for a prepared word is then that of the last word that is the same in lower case, as long as
the word has the same lower case in upper case where that is asked for; so it is the word's own
unless a later word differs in letter case only. Words that are accepted in upper case all keep
their own clues if their characters are paired, as those of ASCII are. -/
theorem clues_by_lower_case {policy : CasePolicy} {words clues : List String} {side : Nat}
    (hlength : words.length = clues.length)
    (haccepted : checkWords (prepareWords policy words) side = .ok ()) :
    ∃ c, Clues.ofLists words clues = .ok c ∧
      (∀ (i : Nat) (word : String), words[i]? = some word →
        (policy = .upper → Text.lower (Text.upper word) = Text.lower word) →
        (∃ j, i ≤ j ∧ LastAlike words word j ∧
          clues[j]? = some (c.clueFor (policy.apply word))) ∧
        ((∀ (k : Nat) (other : String), i < k → words[k]? = some other →
          Text.lower other ≠ Text.lower word) →
          clues[i]? = some (c.clueFor (policy.apply word)))) ∧
      (policy = .upper → (∀ word ∈ words, ∀ letter ∈ word.toList, Text.paired letter = true) →
        c.Keeps policy words clues) ∧
      ∀ letter : Char, letter.toNat < 128 → Text.paired letter = true := by
  refine ⟨_, if_pos hlength, fun i word hi hupper => ?_, ?_, fun _ => Text.paired_of_ascii⟩
  · have hshown : Text.lower (policy.apply word) = Text.lower word := by
      cases policy with
      | preserve => rfl
      | upper => exact hupper rfl
    obtain ⟨j, hj, hlast, hclue⟩ := Clues.clueFor_insertAll hlength hi hshown
    refine ⟨⟨j, hj, hlast, hclue⟩, fun hnone => ?_⟩
    obtain ⟨other, hother, hsame⟩ := hlast.1
    rcases Nat.eq_or_lt_of_le hj with rfl | hlt
    · exact hclue
    · exact absurd hsame (hnone j other hlt hother)
  · rintro rfl hpaired i word hi
    have hshown := Text.lower_upper (hpaired word (List.mem_of_getElem? hi))
    obtain ⟨j, -, ⟨⟨other, hother, hsame⟩, -⟩, hclue⟩ :=
      Clues.clueFor_insertAll hlength hi hshown
    obtain rfl := eq_of_lower_eq haccepted hpaired hi hother hsame
    exact hclue

/-- Two words that are accepted in upper case keep their clues. -/
theorem clues_of_rat_and_cat : ∃ c, Clues.ofLists ["rat", "Cat"] ["Rodent", "Feline"] = .ok c ∧
    c.clueFor (Text.upper "rat") = "Rodent" ∧ c.clueFor (Text.upper "Cat") = "Feline" := by
  have haccepted : checkWords (prepareWords .upper ["rat", "Cat"]) 6 = .ok () := by cbv
  have hlength : ["rat", "Cat"].length = ["Rodent", "Feline"].length := rfl
  obtain ⟨c, hc, -, hkeeps, hascii⟩ := clues_by_lower_case hlength haccepted
  have hletters : ∀ word ∈ ["rat", "Cat"], ∀ letter ∈ word.toList, letter.toNat < 128 := by
    simp
  have hown := hkeeps rfl fun word hword letter hletter =>
    hascii letter (hletters word hword letter hletter)
  exact ⟨c, hc, (Option.some.inj (hown 0 "rat" rfl)).symm,
    (Option.some.inj (hown 1 "Cat" rfl)).symm⟩

/-- **Words need not keep their own clues.** Accepted words that differ in letter case only share
the clue of the last of them. And where the upper case of a word has another lower case than the
word, its clue is not found. -/
theorem clues_not_kept :
    (checkWords (prepareWords .preserve ["Polish", "polish"]) 12 = .ok () ∧
      ∃ c, Clues.ofLists ["Polish", "polish"] ["From Warsaw", "Make it shine"] = .ok c ∧
        ¬ c.Keeps .preserve ["Polish", "polish"] ["From Warsaw", "Make it shine"]) ∧
    (checkWords (prepareWords .upper ["straße", "see"]) 14 = .ok () ∧
      ∃ c, Clues.ofLists ["straße", "see"] ["Way in Berlin", "Water"] = .ok c ∧
        ¬ c.Keeps .upper ["straße", "see"] ["Way in Berlin", "Water"]) := by
  refine ⟨⟨by cbv, _, rfl, fun h => ?_⟩, ⟨by cbv, _, rfl, fun h => ?_⟩⟩
  · have hshared : (Clues.empty.insertAll (["Polish", "polish"].zip
        ["From Warsaw", "Make it shine"])).clueFor "Polish" = "Make it shine" := by cbv
    have hown := Option.some.inj ((h 0 "Polish" rfl).trans (congrArg some hshared))
    exact absurd hown (by decide)
  · have hlost : (Clues.empty.insertAll (["straße", "see"].zip
        ["Way in Berlin", "Water"])).clueFor (Text.upper "straße") = Clues.missing := by cbv
    have hown := Option.some.inj ((h 0 "straße" rfl).trans (congrArg some hlost))
    exact absurd hown (by decide)

end Crossword
