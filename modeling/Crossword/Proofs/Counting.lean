import Crossword.Proofs.Completeness
import Crossword.Proofs.Effort
import Mathlib

/-!
# Counting backtracks

How often a search takes a word back: for want of room it does so once for each course that places
some of its words, but not all. `Draft.courses` lists those courses, each once
(`Draft.nodup_courses`), and they are the backtracks of the effort (`Draft.backtracks_effort`).

Main result: `backtracks_placeWords`. A search that is exhausted has counted exactly those courses,
and one whose budget has room for all of them, and whose time is not limited, is not abandoned.
-/

namespace Crossword

/-! ## The courses of a search -/

namespace Draft

/-- The courses that begin with a word at an anchor; `next` lists those for the words after it. -/
def coursesAt (next : Draft → List (List (String × Anchor))) (d : Draft) (word : String)
    (a : Anchor) : List (List (String × Anchor)) :=
  match Placement.ofAnchor? a word.length d.grid.rows d.grid.cols with
  | none => []
  | some p => [(word, a)] :: (next (d.commit word p)).map ((word, a) :: ·)

/-- The courses that place the first of some words, and any number of those that follow. -/
def courses : (first : Bool) → List String → Draft → List (List (String × Anchor))
  | _, [], _ => []
  | first, word :: rest, d => (d.choices first word).flatMap (d.coursesAt (courses false rest) word)

variable {next : Draft → List (List (String × Anchor))} {d : Draft} {first : Bool}
  {word : String} {a : Anchor} {placed : List (String × Anchor)}

theorem mem_coursesAt_iff : placed ∈ d.coursesAt next word a ↔
    ∃ p, Placement.ofAnchor? a word.length d.grid.rows d.grid.cols = some p ∧
      (placed = [(word, a)] ∨ ∃ later ∈ next (d.commit word p), placed = (word, a) :: later) := by
  rw [coursesAt]
  split
  · next h => simp [h]
  · next p h => simp [h, eq_comm]

/-- All courses at an anchor begin there. -/
theorem head?_of_mem_coursesAt (h : placed ∈ d.coursesAt next word a) :
    placed.head? = some (word, a) := by
  obtain ⟨p, -, hplaced⟩ := mem_coursesAt_iff.mp h
  rcases hplaced with rfl | ⟨later, -, rfl⟩
  · rfl
  · rfl

theorem mem_courses_cons_iff {rest : List String} : placed ∈ d.courses first (word :: rest) ↔
    ∃ a ∈ d.choices first word, placed ∈ d.coursesAt (courses false rest) word a := by
  rw [courses, List.mem_flatMap]

theorem ne_nil_of_mem_courses {words : List String} (h : placed ∈ d.courses first words) :
    placed ≠ [] := by
  rintro rfl
  cases words with
  | nil => cases h
  | cons word rest =>
    obtain ⟨a, -, hat⟩ := mem_courses_cons_iff.mp h
    cases head?_of_mem_coursesAt hat

/-- What is listed are the courses that place at least one word of the list and none out of order.
-/
theorem mem_courses_iff {words : List String} : placed ∈ d.courses first words ↔
    placed ≠ [] ∧ placed.map Prod.fst <+: words ∧ ∃ e, Course first d placed e := by
  induction words generalizing first d placed with
  | nil =>
    constructor
    · intro h
      cases h
    · intro h
      obtain ⟨hne, hstarts, -⟩ := h
      exact absurd (List.map_eq_nil_iff.mp (List.prefix_nil.mp hstarts)) hne
  | cons word rest ih =>
    constructor
    · intro h
      refine ⟨ne_nil_of_mem_courses h, ?_⟩
      obtain ⟨a, ha, hat⟩ := mem_courses_cons_iff.mp h
      obtain ⟨p, hp, hplaced⟩ := mem_coursesAt_iff.mp hat
      rcases hplaced with rfl | ⟨later, hlater, rfl⟩
      · exact ⟨by simp, _, .cons ha hp (.nil ..)⟩
      · obtain ⟨-, hstarts, e, he⟩ := ih.mp hlater
        exact ⟨by simpa using hstarts, e, .cons ha hp he⟩
    · intro h
      obtain ⟨hne, hstarts, e, he⟩ := h
      cases he with
      | nil => exact absurd rfl hne
      | @cons _ _ _ word' a p later ha hp hrest =>
        rw [List.map_cons, List.cons_prefix_cons] at hstarts
        obtain ⟨rfl, hstarts⟩ := hstarts
        refine mem_courses_cons_iff.mpr ⟨a, ha, mem_coursesAt_iff.mpr ⟨p, hp, ?_⟩⟩
        cases later with
        | nil => exact Or.inl rfl
        | cons x later =>
          exact Or.inr ⟨x :: later, ih.mpr ⟨by simp, hstarts, e, hrest⟩, rfl⟩

/-- No course is listed twice. -/
theorem nodup_courses (d : Draft) (first : Bool) (words : List String) :
    (d.courses first words).Nodup := by
  induction words generalizing first d with
  | nil => exact List.nodup_nil
  | cons word rest ih =>
    rw [courses, List.nodup_flatMap]
    constructor
    · intro a _
      rw [coursesAt]
      split
      · exact List.nodup_nil
      · next p _ =>
        refine List.nodup_cons.mpr ⟨?_, (ih _ _).map List.cons_injective⟩
        intro hmem
        obtain ⟨later, hlater, heq⟩ := List.mem_map.mp hmem
        exact ne_nil_of_mem_courses hlater (List.cons.inj heq).2
    · refine (nodup_choices d first word).imp fun hne placed ha hb => hne ?_
      have hhead := (head?_of_mem_coursesAt ha).symm.trans (head?_of_mem_coursesAt hb)
      simpa using hhead

end Draft

/-! ## Backtracks -/

section Partials

variable {word : String} {rest : List String}

/-- The number of courses that place some of the words of a list, but not all. -/
def Draft.partials (d : Draft) (first : Bool) (words : List String) : Nat :=
  (d.courses first words.dropLast).length

/-- The number of those among them that begin with a word at an anchor. -/
def Draft.partialsAt (d : Draft) (word : String) (rest : List String) (a : Anchor) : Nat :=
  if rest = [] then 0 else (d.coursesAt (Draft.courses false rest.dropLast) word a).length

/-- The partial courses are counted anchor by anchor. -/
theorem Draft.partials_cons (d : Draft) (first : Bool) (word : String) (rest : List String) :
    d.partials first (word :: rest) =
      ((d.choices first word).map (d.partialsAt word rest)).sum := by
  cases rest with
  | nil =>
    have hzero : d.partialsAt word [] = fun _ => 0 := funext fun a => if_pos rfl
    rw [hzero, List.map_const', List.sum_replicate_nat, Nat.mul_zero]
    rfl
  | cons r rest =>
    have hlength : d.partialsAt word (r :: rest) = fun a =>
        (d.coursesAt (Draft.courses false (r :: rest).dropLast) word a).length :=
      funext fun a => if_neg (List.cons_ne_nil r rest)
    rw [hlength, partials, List.dropLast_cons_of_ne_nil (List.cons_ne_nil r rest), courses,
      List.length_flatMap]

/-- One partial course ends with the word itself, the others go on from there. -/
theorem Draft.partialsAt_of_placement {d : Draft} {a : Anchor} {p : Placement}
    (hp : Placement.ofAnchor? a word.length d.grid.rows d.grid.cols = some p) (hrest : rest ≠ []) :
    d.partialsAt word rest a = (d.commit word p).partials false rest + 1 := by
  rw [partialsAt, if_neg hrest, coursesAt, hp]
  simp [partials]

theorem Draft.partialsAt_of_none {d : Draft} {a : Anchor}
    (hp : Placement.ofAnchor? a word.length d.grid.rows d.grid.cols = none) :
    d.partialsAt word rest a = 0 := by
  rw [partialsAt, coursesAt, hp]
  exact ite_self 0

/-- The backtracks of the effort are the partial courses. -/
theorem Draft.backtracks_effort (first : Bool) (words : List String) (d : Draft) :
    (d.effort first words).backtracks = d.partials first words := by
  induction words generalizing first d with
  | nil => rfl
  | cons word rest ih =>
    have hat : ∀ a, (d.effortAt (Draft.effort false rest) word rest a).backtracks =
        d.partialsAt word rest a := by
      intro a
      by_cases hrest : rest = []
      · rw [effortAt, partialsAt, if_pos hrest, if_pos hrest]
      · cases hp : Placement.ofAnchor? a word.length d.grid.rows d.grid.cols with
        | none => rw [effortAt_of_none hp, partialsAt_of_none hp]
        | some p =>
          rw [effortAt_of_placement hp hrest, partialsAt_of_placement hp hrest, ← ih]
          exact Nat.add_comm ..
    show 0 + (Statistics.total _).backtracks = _
    rw [Nat.zero_add, Statistics.backtracks_total, List.map_map, Draft.partials_cons]
    exact congrArg List.sum (List.map_congr_left fun a _ => hat a)

end Partials

/-- A search that is abandoned, though there was room for a backtrack when it began, has taken back
fewer words than it would have in vain: the last one was taken back without counting. -/
theorem backtracks_lt_of_abandoned {budget : Budget} {clock : Clock} {first : Bool}
    {words : List String} {w : Walk} (hw : w.draft.Sound)
    (hroom : w.reach words.length ≤ maxOwners)
    (hopen : budget.spent clock w.enter.statistics = false)
    (h : (placeWords budget clock first words w).1 = .abandoned) :
    (placeWords budget clock first words w).2.statistics.backtracks <
      w.statistics.backtracks + w.draft.partials first words := by
  cases words with
  | nil => cases h
  | cons word rest =>
    rcases placeWords_end budget clock first word rest w with ⟨hspent, -⟩ | ⟨-, hend⟩
    · rw [hopen] at hspent
      cases hspent
    · generalize placeWords budget clock first (word :: rest) w = result at h hend
      cases hend with
      | exhausted => cases h
      | solved => cases h
      | @abandoned tried untried a u v p hanchors htried hp hnext =>
        have hne : rest ≠ [] := by
          rintro rfl
          cases hnext
        obtain ⟨-, hsound, hreach⟩ := (Visit.of_append hanchors htried).exact hw hroom hp
        have hinner : v.statistics.backtracks ≤
            ((u.place word p).statistics.absorb
              ((u.place word p).draft.effort false rest)).backtracks := by
          have hway := (effort_placeWords budget clock hsound hreach).2 (congrArg Prod.fst hnext)
          rw [hnext] at hway
          exact hway.le.2.2.1
        have hcount := congrArg Statistics.backtracks <| htried.absorb_effort
          (fun _ hv hreach => (effort_placeWords budget clock hv hreach).1) hw hroom hne hanchors hp
        change w.statistics.backtracks + _ = _ + 1 + _ at hcount
        rw [← Draft.backtracks_effort, hcount]
        show v.statistics.backtracks < _
        omega

/-- **What a search takes back.** A search on a sound draft that is exhausted has taken a word back
for each course that places some of its words, but not all. If its budget has room for one backtrack
more when it begins and for all those courses, and time is not limited, it is not abandoned. -/
theorem backtracks_placeWords (budget : Budget) (clock : Clock) {first : Bool}
    {words : List String} {w : Walk} (hw : w.draft.Sound)
    (hroom : w.reach words.length ≤ maxOwners) :
    ((placeWords budget clock first words w).1 = .exhausted →
      (placeWords budget clock first words w).2.statistics.backtracks =
        w.statistics.backtracks + w.draft.partials first words) ∧
    (budget.timeLimit = none → w.statistics.backtracks < budget.maxBacktracks →
      w.statistics.backtracks + w.draft.partials first words ≤ budget.maxBacktracks →
      (placeWords budget clock first words w).1 ≠ .abandoned) := by
  constructor
  · intro h
    rw [← Draft.backtracks_effort, (effort_placeWords budget clock hw hroom).1 h]
    rfl
  · intro htime hstart hle h
    have hopen : budget.spent clock w.enter.statistics = false := by
      rw [← Bool.not_eq_true, Budget.spent_untimed_iff htime]
      exact Nat.not_le_of_gt hstart
    have hmax := maxBacktracks_le_of_abandoned htime h
    have hless := backtracks_lt_of_abandoned hw hroom hopen h
    omega

end Crossword
