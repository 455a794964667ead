import Crossword.Proofs.Squares
import Mathlib.Data.List.Induction

/-!
# Admissible layouts

The layouts that the search looks for, said without the search. A layout is a list of words with
their anchors. It is admissible if its first word is centred and each later word crosses the sheet
of those before it: the word stays on the sheet, meets no letter but its own, and meets one
(`Grid.Crosses`).

Main results: `Admissible.agree` (the words of an admissible layout agree wherever they share a
square) and `admissible_append_singleton_iff`, by which layouts are built up word by word.
-/

namespace Crossword

/-! ## The sheet of a layout -/

/-- The square grid that holds the words of a layout and nothing else. Where they disagree, the
earlier word has its way. -/
def sheet (side : Nat) (placed : List (String × Anchor)) : Grid :=
  Board.tabulate side side fun q =>
    match placed.findSome? fun x => x.2.letterAt? x.1 q with
    | none => .blank
    | some c => .letter c

/-- Holds if the words of a layout agree wherever they share a square. -/
def Agree (placed : List (String × Anchor)) : Prop :=
  ∀ x ∈ placed, ∀ y ∈ placed, ∀ q c d,
    x.2.letterAt? x.1 q = some c → y.2.letterAt? y.1 q = some d → c = d

theorem get?_sheet_eq_letter_iff {side : Nat} {placed : List (String × Anchor)} {q : Position}
    {c : Char} : (sheet side placed).get? q = some (.letter c) ↔ (q.row < side ∧ q.col < side) ∧
      placed.findSome? (fun x => x.2.letterAt? x.1 q) = some c := by
  rw [sheet, Board.get?_tabulate]
  split
  · next h =>
    cases placed.findSome? fun x => x.2.letterAt? x.1 q <;> simp [h]
  · next h => simp [h]

/-- A letter of the sheet belongs to a word. -/
theorem exists_of_get?_sheet {side : Nat} {placed : List (String × Anchor)} {q : Position}
    {c : Char} (h : (sheet side placed).get? q = some (.letter c)) :
    ∃ x ∈ placed, x.2.letterAt? x.1 q = some c :=
  List.exists_of_findSome?_eq_some (get?_sheet_eq_letter_iff.mp h).2

/-- Where words agree, each of their letters is on the sheet. -/
theorem Agree.get?_sheet {side : Nat} {placed : List (String × Anchor)} (h : Agree placed)
    {x : String × Anchor} (hx : x ∈ placed) {q : Position} {c : Char}
    (hq : x.2.letterAt? x.1 q = some c) (hin : q.row < side ∧ q.col < side) :
    (sheet side placed).get? q = some (.letter c) := by
  rw [get?_sheet_eq_letter_iff]
  refine ⟨hin, ?_⟩
  cases hfind : placed.findSome? fun x => x.2.letterAt? x.1 q with
  | none =>
    rw [List.findSome?_eq_none_iff] at hfind
    rw [hfind x hx] at hq
    cases hq
  | some d =>
    -- the earliest word over the square agrees with `x`
    obtain ⟨y, hy, hd⟩ := List.exists_of_findSome?_eq_some hfind
    rw [h x hx y hy q c d hq hd]

/-! ## Admissible layouts -/

/-- A word crosses what is on a grid if it stays on the grid, meets no letter but its own, and meets
one. -/
structure Grid.Crosses (g : Grid) (word : String) (a : Anchor) : Prop where
  inside : a.StaysInside word g.rows g.cols
  agrees : ∀ q c d, a.letterAt? word q = some c → g.get? q = some (.letter d) → c = d
  meets : ∃ q c d, a.letterAt? word q = some c ∧ g.get? q = some (.letter d)

/-- The two anchors that centre a word on a square grid: on the middle row and on the middle
column. -/
def centres (side : Nat) (word : String) : List Anchor :=
  [⟨(side / 2 : Nat), ((side - word.length) / 2 : Nat), .across⟩,
    ⟨((side - word.length) / 2 : Nat), (side / 2 : Nat), .down⟩]

/-- Holds if a word with its anchor can come next in an admissible layout: the first word is
centred, each later one crosses the sheet of those before it. -/
def Extends (side : Nat) (pre : List (String × Anchor)) (x : String × Anchor) : Prop :=
  if pre = [] then x.2 ∈ centres side x.1 else (sheet side pre).Crosses x.1 x.2

/-- A layout is admissible if each of its words can come next after those before it. -/
def Admissible (side : Nat) (placed : List (String × Anchor)) : Prop :=
  ∀ pre x post, placed = pre ++ x :: post → Extends side pre x

/-- The first word of an admissible layout is a centred one. -/
theorem extends_nil_iff {side : Nat} {x : String × Anchor} :
    Extends side [] x ↔ x.2 ∈ centres side x.1 := by
  rw [Extends, if_pos rfl]

/-- Every word can come first. -/
theorem exists_extends_nil (side : Nat) (word : String) : ∃ a, Extends side [] (word, a) := by
  have hcentre : ∃ a, a ∈ centres side word := ⟨_, List.mem_cons_self ..⟩
  obtain ⟨a, ha⟩ := hcentre
  exact ⟨a, extends_nil_iff.mpr ha⟩

/-- A centred word that is no longer than the side stays on the grid. -/
theorem staysInside_of_mem_centres {side : Nat} {word : String} {a : Anchor}
    (ha : a ∈ centres side word) (hle : word.length ≤ side) : a.StaysInside word side side := by
  intro i hi
  simp only [centres, List.mem_cons, List.not_mem_nil, or_false] at ha
  rcases ha with rfl | rfl
  · refine ⟨⟨side / 2, (side - word.length) / 2 + i⟩, Anchor.square?_eq_some_iff.mpr ?_⟩
    simp only [Anchor.rowAt, Anchor.colAt, Orientation.rowStep, Orientation.colStep]
    omega
  · refine ⟨⟨(side - word.length) / 2 + i, side / 2⟩, Anchor.square?_eq_some_iff.mpr ?_⟩
    simp only [Anchor.rowAt, Anchor.colAt, Orientation.rowStep, Orientation.colStep]
    omega

/-- A word that comes next stays on the grid. -/
theorem Extends.inside {side : Nat} {pre : List (String × Anchor)} {x : String × Anchor}
    (h : Extends side pre x) (hle : x.1.length ≤ side) : x.2.StaysInside x.1 side side := by
  rw [Extends] at h
  split at h
  · exact staysInside_of_mem_centres h hle
  · exact h.inside

theorem admissible_nil (side : Nat) : Admissible side [] := by
  intro pre x post h
  simp at h

/-- The beginning of an admissible layout is admissible. -/
theorem Admissible.of_append {side : Nat} {pre post : List (String × Anchor)}
    (h : Admissible side (pre ++ post)) : Admissible side pre := by
  intro pre' x post' heq
  apply h pre' x (post' ++ post)
  rw [heq, List.append_assoc, List.cons_append]

/-- What holds of each item of a list and those before it holds of one more item if it holds of the
list and of the new item after it. -/
theorem forall_split_append_singleton_iff {α : Type} {P : List α → α → Prop} {l : List α} {z : α} :
    (∀ pre x post, l ++ [z] = pre ++ x :: post → P pre x) ↔
      (∀ pre x post, l = pre ++ x :: post → P pre x) ∧ P l z := by
  constructor
  · intro h
    refine ⟨fun pre x post heq => h pre x (post ++ [z]) ?_, h l z [] rfl⟩
    rw [heq, List.append_assoc, List.cons_append]
  · intro h pre x post heq
    obtain ⟨hl, hz⟩ := h
    -- either `x` is the new item, or the new item is the last one after it
    rcases List.eq_nil_or_concat post with rfl | ⟨post, w, rfl⟩
    · obtain ⟨rfl, heq⟩ := List.append_inj' heq rfl
      obtain rfl : z = x := by simpa using heq
      exact hz
    · rw [List.concat_eq_append, ← List.cons_append, ← List.append_assoc] at heq
      obtain ⟨heq, -⟩ := List.append_inj' heq rfl
      exact hl pre x post heq

/-- A layout is admissible if what comes before its last word is, and the last word can come
next. -/
theorem admissible_append_singleton_iff {side : Nat} {pre : List (String × Anchor)}
    {x : String × Anchor} :
    Admissible side (pre ++ [x]) ↔ Admissible side pre ∧ Extends side pre x :=
  forall_split_append_singleton_iff

/-- A word on its own is admissible where it is centred. -/
theorem admissible_singleton_iff {side : Nat} {x : String × Anchor} :
    Admissible side [x] ↔ x.2 ∈ centres side x.1 := by
  have hsplit : Admissible side ([] ++ [x]) ↔ Admissible side [] ∧ Extends side [] x :=
    admissible_append_singleton_iff
  rw [extends_nil_iff] at hsplit
  exact hsplit.trans (and_iff_right (admissible_nil side))

namespace Admissible

variable {side : Nat} {placed : List (String × Anchor)}

/-- The words of an admissible layout agree wherever they share a square. -/
theorem agree (h : Admissible side placed) : Agree placed := by
  induction placed using List.reverseRecOn with
  | nil =>
    intro x hx
    cases hx
  | append_singleton pre z ih =>
    obtain ⟨hpre, hz⟩ := admissible_append_singleton_iff.mp h
    have hagree := ih hpre
    -- the new word met the letters of the others when it was added
    have hnew : ∀ y ∈ pre, ∀ q c d, z.2.letterAt? z.1 q = some c →
        y.2.letterAt? y.1 q = some d → c = d := by
      intro y hy q c d hc hd
      rw [Extends, if_neg (List.ne_nil_of_mem hy)] at hz
      exact hz.agrees q c d hc (hagree.get?_sheet hy hd (hz.inside.inside hc))
    intro x hx y hy q c d hc hd
    rw [List.mem_append, List.mem_singleton] at hx hy
    rcases hx with hx | rfl
    · rcases hy with hy | rfl
      · exact hagree x hx y hy q c d hc hd
      · exact (hnew x hx q d c hd hc).symm
    · rcases hy with hy | rfl
      · exact hnew y hy q c d hc hd
      · exact Option.some.inj (hc.symm.trans hd)

end Admissible

end Crossword
