import Crossword.Proofs.Attempts

/-!
# Infeasible word lists

What it says about the words that the generator calls them infeasible. An arrangement of words keeps
them on the grid and lets them agree wherever they share a square. The search does not go through
all arrangements: it centres the first of the ordered words, and it gives each later one a square in
common with an earlier one (`Linked`). Among the arrangements of this kind it misses none.

Main results: words that a generator calls infeasible have no arrangement of this kind, whatever the
generator and however many words there are; and neither of the two restrictions can be left out.
-/

namespace Crossword

/-! ## Arrangements -/

/-- An arrangement keeps its words on a square grid and lets them agree wherever they share a
square. -/
structure Arrangement (side : Nat) (placed : List (String × Anchor)) : Prop where
  inside : ∀ x ∈ placed, x.2.StaysInside x.1 side side
  agree : Agree placed

/-- Two words meet if they share a square. -/
def Meets (x y : String × Anchor) : Prop :=
  ∃ q c d, x.2.letterAt? x.1 q = some c ∧ y.2.letterAt? y.1 q = some d

/-- Holds if there is a way from each word to each other one by words that meet. -/
def Connected (placed : List (String × Anchor)) : Prop :=
  ∀ x ∈ placed, ∀ y ∈ placed, Relation.ReflTransGen (fun u v => v ∈ placed ∧ Meets u v) x y

/-- Holds if each word but the first meets an earlier one. -/
def Linked (placed : List (String × Anchor)) : Prop :=
  ∀ pre x post, placed = pre ++ x :: post → pre ≠ [] → ∃ y ∈ pre, Meets y x

/-- Holds if the first word is centred on a square grid. -/
def Centred (side : Nat) (placed : List (String × Anchor)) : Prop :=
  ∀ x post, placed = x :: post → x.2 ∈ centres side x.1

variable {side : Nat} {placed : List (String × Anchor)}

/-- A centred, linked arrangement is an admissible layout. -/
theorem Arrangement.admissible (h : Arrangement side placed) (hcentred : Centred side placed)
    (hlinked : Linked placed) : Admissible side placed := by
  intro pre x post heq
  have hx : x ∈ placed := by simp [heq]
  have hpre : ∀ y ∈ pre, y ∈ placed := fun y hy => by simp [heq, hy]
  rw [Extends]
  split
  · next hnil =>
    apply hcentred x post
    rw [heq, hnil, List.nil_append]
  · next hne =>
    refine ⟨h.inside x hx, ?_, ?_⟩
    · intro q c d hc hd
      obtain ⟨y, hy, hletter⟩ := exists_of_get?_sheet hd
      exact h.agree x hx y (hpre y hy) q c d hc hletter
    · obtain ⟨y, hy, q, c, d, hc, hd⟩ := hlinked pre x post heq hne
      have hagree : Agree pre := fun u hu v hv => h.agree u (hpre u hu) v (hpre v hv)
      exact ⟨q, d, c, hd, hagree.get?_sheet hy hc ((h.inside x hx).inside hd)⟩

theorem Meets.symm {x y : String × Anchor} (h : Meets x y) : Meets y x := by
  obtain ⟨q, c, d, hc, hd⟩ := h
  exact ⟨q, d, c, hd, hc⟩

theorem linked_nil : Linked [] := by
  intro pre x post heq
  simp at heq

/-- A layout is linked if what comes before its last word is, and the last word meets one of
those. -/
theorem linked_append_singleton_iff {pre : List (String × Anchor)} {x : String × Anchor} :
    Linked (pre ++ [x]) ↔ Linked pre ∧ (pre ≠ [] → ∃ y ∈ pre, Meets y x) :=
  forall_split_append_singleton_iff

theorem linked_singleton (x : String × Anchor) : Linked [x] :=
  linked_append_singleton_iff.mpr ⟨linked_nil, fun hne => absurd rfl hne⟩

/-- If each item of a list but the first touches an earlier one, there is a way from each item to
each other one by items that touch. -/
theorem connected_of_linked {α : Type} {touches : α → α → Prop}
    (hsymm : ∀ x y, touches x y → touches y x) {items : List α}
    (h : ∀ pre x post, items = pre ++ x :: post → pre ≠ [] → ∃ y ∈ pre, touches y x) :
    ∀ x ∈ items, ∀ y ∈ items, Relation.ReflTransGen (fun u v => v ∈ items ∧ touches u v) x y := by
  induction items using List.reverseRecOn with
  | nil =>
    intro x hx
    cases hx
  | append_singleton pre z ih =>
    obtain ⟨hpre, hz⟩ :=
      (forall_split_append_singleton_iff (P := fun pre x => pre ≠ [] → ∃ y ∈ pre, touches y x)).mp h
    have hconnected := ih hpre
    -- the ways among the earlier items are still there
    have hold : ∀ x ∈ pre, ∀ y ∈ pre,
        Relation.ReflTransGen (fun u v => v ∈ pre ++ [z] ∧ touches u v) x y := fun x hx y hy =>
      (hconnected x hx y hy).lift id fun u v huv => ⟨List.mem_append_left _ huv.1, huv.2⟩
    have hnew : ∀ x ∈ pre, ∃ y ∈ pre, touches y z := fun x hx => hz (List.ne_nil_of_mem hx)
    intro x hx y hy
    rw [List.mem_append, List.mem_singleton] at hx hy
    rcases hx with hx | rfl
    · rcases hy with hy | rfl
      · exact hold x hx y hy
      · obtain ⟨u, hu, htouches⟩ := hnew x hx
        exact (hold x hx u hu).tail ⟨by simp, htouches⟩
    · rcases hy with hy | rfl
      · obtain ⟨u, hu, htouches⟩ := hnew y hy
        exact (hold u hu y hy).head ⟨List.mem_append_left _ hu, hsymm _ _ htouches⟩
      · exact .refl

/-- A linked layout is connected. -/
theorem Linked.connected (h : Linked placed) : Connected placed :=
  connected_of_linked (fun _ _ => Meets.symm) h

/-- In an admissible layout each word but the first meets an earlier one. -/
theorem Admissible.linked (h : Admissible side placed) : Linked placed := by
  intro pre x post heq hne
  have hextends := h pre x post heq
  rw [Extends, if_neg hne] at hextends
  obtain ⟨q, c, d, hc, hd⟩ := hextends.meets
  obtain ⟨y, hy, hletter⟩ := exists_of_get?_sheet hd
  exact ⟨y, hy, q, d, c, hletter, hc⟩

/-- The order of the words does not matter. -/
theorem Connected.perm {others : List (String × Anchor)} (h : Connected placed)
    (hperm : placed.Perm others) : Connected others := by
  intro x hx y hy
  exact (h x (hperm.mem_iff.mpr hx) y (hperm.mem_iff.mpr hy)).lift id
    fun u v huv => ⟨hperm.mem_iff.mp huv.1, huv.2⟩

/-- The letters of a word on a square grid; none if it does not stay there. -/
def letters (side : Nat) (x : String × Anchor) : List (Position × Char) :=
  match Placement.ofAnchor? x.2 x.1.length side side with
  | none => []
  | some p => p.lettered x.1

theorem mem_letters_iff {x : String × Anchor} (h : x.2.StaysInside x.1 side side) {q : Position}
    {c : Char} : (q, c) ∈ letters side x ↔ x.2.letterAt? x.1 q = some c := by
  obtain ⟨p, hp⟩ := Placement.exists_of_staysInside h
  rw [letters, hp]
  exact Placement.mem_lettered_iff hp

/-- Whether words are arranged can be read off their letters. -/
theorem arrangement_iff : Arrangement side placed ↔
    (∀ x ∈ placed, (Placement.ofAnchor? x.2 x.1.length side side).isSome = true) ∧
      ∀ x ∈ placed, ∀ y ∈ placed, ∀ s ∈ letters side x, ∀ t ∈ letters side y,
        s.1 = t.1 → s.2 = t.2 := by
  constructor
  · intro h
    refine ⟨fun x hx => Placement.isSome_ofAnchor?_iff.mpr (h.inside x hx), ?_⟩
    intro x hx y hy s hs t ht heq
    have hc := (mem_letters_iff (h.inside x hx)).mp hs
    have hd := (mem_letters_iff (h.inside y hy)).mp ht
    exact h.agree x hx y hy s.1 s.2 t.2 hc (heq ▸ hd)
  · intro h
    obtain ⟨hsome, hall⟩ := h
    have hinside : ∀ x ∈ placed, x.2.StaysInside x.1 side side := fun x hx =>
      Placement.isSome_ofAnchor?_iff.mp (hsome x hx)
    refine ⟨hinside, ?_⟩
    intro x hx y hy q c d hc hd
    exact hall x hx y hy (q, c) ((mem_letters_iff (hinside x hx)).mpr hc) (q, d)
      ((mem_letters_iff (hinside y hy)).mpr hd) rfl

instance (side : Nat) (placed : List (String × Anchor)) : Decidable (Arrangement side placed) :=
  decidable_of_iff _ arrangement_iff.symm

/-! ## The error -/

theorem exists_of_checkWordsAfter_eq_error {side : Nat} {seen words : List String} {e : Error}
    (h : checkWordsAfter side seen words = .error e) : ∃ fault, e = .invalidInput fault := by
  induction words generalizing seen with
  | nil => cases h
  | cons word rest ih =>
    rw [checkWordsAfter] at h
    split at h
    · exact ⟨_, (Except.error.inj h).symm⟩
    split at h
    · exact ⟨_, (Except.error.inj h).symm⟩
    split at h
    · exact ⟨_, (Except.error.inj h).symm⟩
    · exact ih h

/-- Words that are not accepted are reported as bad input. -/
theorem exists_of_checkWords_eq_error {words : List String} {side : Nat} {e : Error}
    (h : checkWords words side = .error e) : ∃ fault, e = .invalidInput fault := by
  rw [checkWords] at h
  split at h
  · exact ⟨_, (Except.error.inj h).symm⟩
  · exact exists_of_checkWordsAfter_eq_error h

/-- An infeasible list is reported after an attempt that exhausted the search. -/
theorem Campaign.exists_exhausted_of_infeasible {config : Config} {clocks : Clocks}
    {words : List String} {side count number : Nat} {c : Campaign} {tries deepest total : Nat}
    (h : (attempts config clocks words side count number c).1 =
      .error (.infeasible tries deepest total)) :
    ∃ i stream,
      ((Placer.onSide words side config.budget).run (clocks i) stream).1 = .exhausted := by
  induction count generalizing number c with
  | zero =>
    rw [attempts_none, verdict] at h
    split at h <;> simp at h
  | succ count ih =>
    rw [attempts_more] at h
    dsimp only at h
    split at h
    · exact ih h
    · next hexhausted => exact ⟨number, _, hexhausted⟩
    · split at h
      · next e he =>
        obtain ⟨row, col, reason, rfl⟩ := Layout.exists_of_check_eq_error he
        simp at h
      · split at h
        · rw [verdict] at h
          split at h <;> simp at h
        · exact ih h

/-- **An infeasible list is infeasible.** If a generator calls a list of words infeasible, there is
no arrangement of the prepared words on its grid in which the first of the ordered words is centred
and each later one shares a square with an earlier one. -/
theorem Generator.no_arrangement_of_infeasible {g : Generator} {clocks : Clocks}
    {words : List String} {tries deepest total : Nat}
    (h : (g.generate clocks words).1 = .error (.infeasible tries deepest total)) :
    let prepared := prepareWords g.config.casePolicy words
    let side := g.config.sideFor prepared
    ¬ ∃ placed, placed.map Prod.fst = orderWords prepared ∧ Arrangement side placed ∧
      Centred side placed ∧ Linked placed := by
  intro prepared side hex
  obtain ⟨placed, hwords, harranged, hcentred, hlinked⟩ := hex
  rw [generate_eq] at h
  cases hcheck : checkWords (g.prepared words) (g.side words) with
  | error e =>
    obtain ⟨fault, rfl⟩ := exists_of_checkWords_eq_error hcheck
    rw [hcheck] at h
    cases h
  | ok _ =>
    rw [hcheck] at h
    obtain ⟨i, stream, hexhausted⟩ := Campaign.exists_exhausted_of_infeasible h
    exact Placer.not_nonempty_layouts_of_exhausted hcheck hexhausted
      ⟨placed, hwords, harranged.admissible hcentred hlinked⟩

/-- Two words without a common letter are infeasible, and so cannot be arranged. -/
theorem Generator.no_arrangement_of_disjoint_words :
    ¬ ∃ placed, placed.map Prod.fst = ["AB", "CD"] ∧ Arrangement 4 placed ∧ Centred 4 placed ∧
      Linked placed := by
  have hinfeasible : ((⟨.usual, .ofSeed 42⟩ : Generator).generate .still ["AB", "CD"]).1 =
      .error (.infeasible 1 1 2) := by cbv
  have hordered : orderWords (prepareWords Config.usual.casePolicy ["AB", "CD"]) =
      ["AB", "CD"] := by cbv
  have hside : Config.usual.sideFor (prepareWords Config.usual.casePolicy ["AB", "CD"]) = 4 := by
    cbv
  have hnone := no_arrangement_of_infeasible hinfeasible
  simp only [hordered, hside] at hnone
  exact hnone

/-- Holds of words that interlock in some way: there is an arrangement of the prepared words on
their grid in which they are connected, in whatever order. -/
def Config.Interlocks (config : Config) (words : List String) : Prop :=
  let prepared := prepareWords config.casePolicy words
  ∃ placed, placed.map Prod.fst = prepared ∧ Arrangement (config.sideFor prepared) placed ∧
    Connected placed

/-- **What the error does not say.** Words that are called infeasible may interlock. The first list
does if its last word comes second, with the first word in the centre; the second list does on a
grid of side two, though not with its first word in the centre. -/
theorem infeasible_of_interlocks :
    generate .usual .still ["AB", "CD", "BC"] = .error (.infeasible 1 1 3) ∧
      Config.usual.Interlocks ["AB", "CD", "BC"] ∧
    generate { gridSide := some 2 } .still ["AB", "BC"] = .error (.infeasible 1 1 2) ∧
      Config.Interlocks { gridSide := some 2 } ["AB", "BC"] := by
  refine ⟨by cbv, ?_, by cbv, ?_⟩
  · -- C stands below the B of the centred word, which only the last word reaches
    let ab : String × Anchor := ("AB", ⟨2, 1, .across⟩)
    let bc : String × Anchor := ("BC", ⟨2, 2, .down⟩)
    let cd : String × Anchor := ("CD", ⟨3, 2, .across⟩)
    have hbc : Meets ab bc := ⟨⟨2, 2⟩, 'B', 'B', by decide, by decide⟩
    have hcd : Meets bc cd := ⟨⟨3, 2⟩, 'C', 'C', by decide, by decide⟩
    have hsecond : Linked ([ab] ++ [bc]) :=
      linked_append_singleton_iff.mpr ⟨linked_singleton ab, fun _ => ⟨ab, by simp, hbc⟩⟩
    have hthird : Linked ([ab, bc] ++ [cd]) :=
      linked_append_singleton_iff.mpr ⟨hsecond, fun _ => ⟨bc, by simp, hcd⟩⟩
    exact ⟨[ab, cd, bc], rfl, by decide, hthird.connected.perm (.cons _ (.swap ..))⟩
  · -- with AB on the middle row there is no room below its B
    let ab : String × Anchor := ("AB", ⟨0, 0, .across⟩)
    let bc : String × Anchor := ("BC", ⟨0, 1, .down⟩)
    have hbc : Meets ab bc := ⟨⟨0, 1⟩, 'B', 'B', by decide, by decide⟩
    have hsecond : Linked ([ab] ++ [bc]) :=
      linked_append_singleton_iff.mpr ⟨linked_singleton ab, fun _ => ⟨ab, by simp, hbc⟩⟩
    exact ⟨[ab, bc], rfl, by decide, hsecond.connected⟩

end Crossword
