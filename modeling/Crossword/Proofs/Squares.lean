import Crossword.Candidates
import Crossword.Layout.Consistency

/-!
# The squares of a placement

A word that begins at an anchor puts its `i`-th letter `i` steps from there (`Anchor.letterAt?`). If
all of its squares lie on a rectangle it can be laid out (`Placement.exists_of_staysInside`). The
squares are a straight run then, so none of them occurs twice (`Placement.nodup_of_isContiguous`),
and the letters lie where the anchor puts them (`Placement.mem_lettered_iff`). A word fits at an
anchor if it stays on the grid there and meets no letter but its own (`Grid.fits_iff_letterAt?`).
-/

namespace Crossword

namespace Anchor

/-- The letter that a word puts on a square if it begins at the anchor. -/
def letterAt? (a : Anchor) (word : String) (q : Position) : Option Char :=
  match a.orientation with
  | .across =>
    if (q.row : Int) = a.row ∧ a.col ≤ q.col then word.toList[((q.col : Int) - a.col).toNat]?
    else none
  | .down =>
    if (q.col : Int) = a.col ∧ a.row ≤ q.row then word.toList[((q.row : Int) - a.row).toNat]?
    else none

/-- A letter lies as many steps from the anchor as there are letters before it. -/
theorem letterAt?_eq_some_iff {a : Anchor} {word : String} {q : Position} {c : Char} :
    a.letterAt? word q = some c ↔ ∃ i : Nat, word.toList[i]? = some c ∧
      (q.row : Int) = a.rowAt i ∧ (q.col : Int) = a.colAt i := by
  obtain ⟨row, col, o⟩ := a
  cases o with
  | across =>
    simp only [letterAt?, rowAt, colAt, Orientation.rowStep, Orientation.colStep]
    constructor
    · intro h
      split at h
      · exact ⟨_, h, by omega, by omega⟩
      · cases h
    · intro hex
      obtain ⟨i, hi, hr, hc⟩ := hex
      rw [if_pos (by omega), ← hi]
      congr 1
      omega
  | down =>
    simp only [letterAt?, rowAt, colAt, Orientation.rowStep, Orientation.colStep]
    constructor
    · intro h
      split at h
      · exact ⟨_, h, by omega, by omega⟩
      · cases h
    · intro hex
      obtain ⟨i, hi, hr, hc⟩ := hex
      rw [if_pos (by omega), ← hi]
      congr 1
      omega

/-- Holds if a word that begins at the anchor stays on a rectangle. -/
def StaysInside (a : Anchor) (word : String) (rows cols : Nat) : Prop :=
  ∀ i < word.length, ∃ q, a.square? (i : Nat) rows cols = some q

/-- Where a word stays on a rectangle, so do its letters. -/
theorem StaysInside.inside {a : Anchor} {word : String} {rows cols : Nat}
    (h : a.StaysInside word rows cols) {q : Position} {c : Char}
    (hq : a.letterAt? word q = some c) : q.row < rows ∧ q.col < cols := by
  obtain ⟨i, hi, hr, hc⟩ := letterAt?_eq_some_iff.mp hq
  obtain ⟨hlt, -⟩ := List.getElem?_eq_some_iff.mp hi
  rw [String.length_toList] at hlt
  obtain ⟨r, hsquare⟩ := h i hlt
  obtain ⟨hr', hc', hrows, hcols⟩ := square?_eq_some_iff.mp hsquare
  omega

end Anchor

namespace Placement

theorem squaresFrom?_eq_some_iff {a : Anchor} {rows cols count steps : Nat}
    {cells : List Position} :
    squaresFrom? a rows cols count steps = some cells ↔ cells.length = count ∧
      ∀ (i : Nat) (p : Position), cells[i]? = some p →
        a.square? ((steps + i : Nat) : Int) rows cols = some p := by
  induction count generalizing steps cells with
  | zero =>
    simp only [squaresFrom?, Option.some.injEq, List.length_eq_zero_iff]
    constructor
    · rintro rfl
      exact ⟨rfl, fun i p hp => by simp at hp⟩
    · intro hboth
      obtain ⟨rfl, -⟩ := hboth
      rfl
  | succ count ih =>
    have hstep : squaresFrom? a rows cols (count + 1) steps = some cells ↔
        ∃ p rest, a.square? steps rows cols = some p ∧
          squaresFrom? a rows cols count (steps + 1) = some rest ∧ p :: rest = cells := by
      simp [squaresFrom?, Option.bind_eq_some_iff]
    rw [hstep]
    constructor
    · intro hex
      obtain ⟨p, rest, hp, hrest, rfl⟩ := hex
      obtain ⟨hlen, hall⟩ := ih.mp hrest
      refine ⟨by simp [hlen], fun i q hq => ?_⟩
      cases i with
      | zero =>
        simp only [List.getElem?_cons_zero, Option.some.injEq] at hq
        subst hq
        exact hp
      | succ i =>
        have := hall i q (by simpa using hq)
        rwa [show steps + 1 + i = steps + (i + 1) from by omega] at this
    · intro hboth
      obtain ⟨hlen, hall⟩ := hboth
      cases cells with
      | nil => simp at hlen
      | cons p rest =>
        refine ⟨p, rest, hall 0 p rfl, ih.mpr ⟨by simpa using hlen, fun i q hq => ?_⟩, rfl⟩
        have := hall (i + 1) q (by simpa using hq)
        rwa [show steps + (i + 1) = steps + 1 + i from by omega] at this

/-- A placement is laid out from an anchor if it has the anchor's direction and its `i`-th square is
the anchor's `i`-th. -/
theorem ofAnchor?_eq_some_iff {a : Anchor} {length rows cols : Nat} {p : Placement} :
    ofAnchor? a length rows cols = some p ↔ p.orientation = a.orientation ∧
      p.cells.length = length ∧
      ∀ (i : Nat) (q : Position), p.cells[i]? = some q → a.square? i rows cols = some q := by
  obtain ⟨cells, o⟩ := p
  simp only [ofAnchor?, Option.map_eq_some_iff, squaresFrom?_eq_some_iff, Nat.zero_add,
    Placement.mk.injEq]
  constructor
  · intro hex
    obtain ⟨cells', h, rfl, rfl⟩ := hex
    exact ⟨rfl, h⟩
  · intro hboth
    obtain ⟨rfl, h⟩ := hboth
    exact ⟨cells, h, rfl, rfl⟩

/-- Squares can be laid out from an anchor if each of them lies on the rectangle. -/
theorem isSome_ofAnchor?_iff {a : Anchor} {length rows cols : Nat} :
    (ofAnchor? a length rows cols).isSome = true ↔
      ∀ i < length, ∃ q, a.square? (i : Nat) rows cols = some q := by
  constructor
  · intro h i hi
    obtain ⟨p, hp⟩ := Option.isSome_iff_exists.mp h
    obtain ⟨-, hlen, hall⟩ := ofAnchor?_eq_some_iff.mp hp
    exact ⟨p.cells.get ⟨i, by omega⟩, hall i _ (List.getElem?_eq_getElem _)⟩
  · intro h
    have hcells : ofAnchor? a length rows cols = some
        ⟨List.ofFn fun i : Fin length => ((a.square? (i : Nat) rows cols).getD .origin),
          a.orientation⟩ := by
      refine ofAnchor?_eq_some_iff.mpr ⟨rfl, List.length_ofFn, fun i q hq => ?_⟩
      obtain ⟨hi, hq⟩ := List.getElem?_eq_some_iff.mp hq
      rw [List.length_ofFn] at hi
      obtain ⟨r, hr⟩ := h i hi
      rw [List.getElem_ofFn] at hq
      simp only [hr, Option.getD_some] at hq
      rw [hr, hq]
    rw [hcells]
    rfl

/-- Where a word stays on the rectangle it can be laid out. -/
theorem exists_of_staysInside {a : Anchor} {word : String} {rows cols : Nat}
    (h : a.StaysInside word rows cols) : ∃ p, ofAnchor? a word.length rows cols = some p :=
  Option.isSome_iff_exists.mp (isSome_ofAnchor?_iff.mpr h)

theorem contiguousIn_iff {o : Orientation} {cells : List Position} :
    contiguousIn o cells = true ↔ ∀ (i : Nat) (p q : Position), cells[i]? = some p →
      cells[i + 1]? = some q → q.row = p.row + o.rowStep ∧ q.col = p.col + o.colStep := by
  induction cells with
  | nil => simp [contiguousIn]
  | cons p rest ih =>
    cases rest with
    | nil => simp [contiguousIn]
    | cons q rest =>
      simp only [contiguousIn, Bool.and_eq_true, decide_eq_true_eq, ih]
      constructor
      · intro hboth i u v hu hv
        obtain ⟨hfirst, hrest⟩ := hboth
        cases i with
        | zero =>
          simp only [List.getElem?_cons_zero, Option.some.injEq] at hu
          simp only [Nat.zero_add, List.getElem?_cons_succ, List.getElem?_cons_zero,
            Option.some.injEq] at hv
          subst hu hv
          exact hfirst
        | succ i => exact hrest i u v (by simpa using hu) (by simpa using hv)
      · intro h
        refine ⟨h 0 p q rfl rfl, fun i u v hu hv => ?_⟩
        exact h (i + 1) u v (by simpa using hu) (by simpa using hv)

/-- The `i`-th square of a straight run is `i` steps from the first one. -/
theorem getElem?_of_contiguousIn {o : Orientation} {cells : List Position} {p : Position}
    (h : contiguousIn o (p :: cells) = true) {i : Nat} {q : Position}
    (hq : (p :: cells)[i]? = some q) :
    q.row = p.row + o.rowStep * i ∧ q.col = p.col + o.colStep * i := by
  induction i generalizing q with
  | zero =>
    simp only [List.getElem?_cons_zero, Option.some.injEq] at hq
    subst hq
    simp
  | succ i ih =>
    obtain ⟨hi, -⟩ := List.getElem?_eq_some_iff.mp hq
    have hprev := List.getElem?_eq_getElem (show i < (p :: cells).length from by omega)
    obtain ⟨hr, hc⟩ := ih hprev
    obtain ⟨hr', hc'⟩ := contiguousIn_iff.mp h i _ q hprev hq
    simp only [Nat.mul_add, Nat.mul_one]
    omega

/-- No square occurs twice in a straight run. -/
theorem nodup_of_isContiguous {p : Placement} (h : p.isContiguous = true) : p.cells.Nodup := by
  obtain ⟨cells, o⟩ := p
  simp only [isContiguous] at h
  cases cells with
  | nil => exact List.nodup_nil
  | cons q cells =>
    rw [List.Nodup, List.pairwise_iff_getElem]
    intro i j hi hj hij heq
    obtain ⟨hri, hci⟩ := getElem?_of_contiguousIn h (List.getElem?_eq_getElem hi)
    obtain ⟨hrj, hcj⟩ := getElem?_of_contiguousIn h (List.getElem?_eq_getElem hj)
    rw [heq] at hri hci
    cases o <;> simp only [Orientation.rowStep, Orientation.colStep] at hri hci hrj hcj <;> omega

section OfAnchor

variable {a : Anchor} {word : String} {rows cols : Nat} {p : Placement}

/-- What is laid out from an anchor is a straight run. -/
theorem isContiguous_of_ofAnchor? {length : Nat} (h : ofAnchor? a length rows cols = some p) :
    p.isContiguous = true := by
  obtain ⟨ho, -, hall⟩ := ofAnchor?_eq_some_iff.mp h
  rw [isContiguous, contiguousIn_iff]
  intro i u v hu hv
  obtain ⟨hur, huc, -, -⟩ := Anchor.square?_eq_some_iff.mp (hall i u hu)
  obtain ⟨hvr, hvc, -, -⟩ := Anchor.square?_eq_some_iff.mp (hall (i + 1) v hv)
  simp only [Anchor.rowAt, Anchor.colAt, Int.natCast_succ, Int.mul_add, Int.mul_one]
    at hur huc hvr hvc
  rw [ho]
  omega

/-- The letters of a word laid out from an anchor lie where the anchor puts them. -/
theorem mem_lettered_iff (h : ofAnchor? a word.length rows cols = some p) {q : Position}
    {c : Char} : (q, c) ∈ p.lettered word ↔ a.letterAt? word q = some c := by
  obtain ⟨-, hlen, hall⟩ := ofAnchor?_eq_some_iff.mp h
  rw [lettered, List.mem_iff_getElem?, Anchor.letterAt?_eq_some_iff]
  simp only [List.getElem?_zip_eq_some]
  constructor
  · intro hq
    obtain ⟨i, hq, hc⟩ := hq
    obtain ⟨hr, hcol, -, -⟩ := Anchor.square?_eq_some_iff.mp (hall i q hq)
    exact ⟨i, hc, hr, hcol⟩
  · intro hq
    obtain ⟨i, hc, hr, hcol⟩ := hq
    obtain ⟨hi, -⟩ := List.getElem?_eq_some_iff.mp hc
    rw [String.length_toList, ← hlen] at hi
    -- the square that is laid out there lies on the rectangle, and it has the coordinates of `q`
    have hcell := hall i _ (List.getElem?_eq_getElem hi)
    obtain ⟨hr', hcol', hrows, hcols⟩ := Anchor.square?_eq_some_iff.mp hcell
    have hsquare : a.square? i rows cols = some q :=
      Anchor.square?_eq_some_iff.mpr ⟨hr, hcol, by omega, by omega⟩
    refine ⟨i, ?_, hc⟩
    rw [List.getElem?_eq_getElem hi, ← hcell, hsquare]

/-- The squares lie in the rectangle. -/
theorem inside_of_ofAnchor? {length : Nat} (h : ofAnchor? a length rows cols = some p)
    {q : Position} (hq : q ∈ p.cells) : q.row < rows ∧ q.col < cols := by
  obtain ⟨-, -, hall⟩ := ofAnchor?_eq_some_iff.mp h
  obtain ⟨i, hi⟩ := List.mem_iff_getElem?.mp hq
  obtain ⟨-, -, hr, hc⟩ := Anchor.square?_eq_some_iff.mp (hall i q hi)
  exact ⟨hr, hc⟩

end OfAnchor

end Placement

namespace PlacedWord

theorem isStraight_iff {entry : PlacedWord} :
    entry.isStraight = true ↔ entry.placement.cells.length = entry.word.length ∧
      entry.placement.isContiguous = true := by
  rw [isStraight, Bool.and_eq_true, decide_eq_true_eq, Placement.length]

/-- A word laid out from an anchor is straight. -/
theorem isStraight_of_ofAnchor? {a : Anchor} {word : String} {rows cols : Nat} {p : Placement}
    (h : Placement.ofAnchor? a word.length rows cols = some p) :
    ({ word, placement := p } : PlacedWord).isStraight = true :=
  isStraight_iff.mpr
    ⟨(Placement.ofAnchor?_eq_some_iff.mp h).2.1, Placement.isContiguous_of_ofAnchor? h⟩

/-- A straight word has a letter for each of its squares. -/
theorem map_fst_lettered {entry : PlacedWord} (h : entry.isStraight = true) :
    entry.lettered.map Prod.fst = entry.placement.cells := by
  obtain ⟨hlen, -⟩ := isStraight_iff.mp h
  rw [entry.lettered_eq, Placement.lettered, List.map_fst_zip]
  rw [String.length_toList]
  omega

theorem mem_cells_iff {entry : PlacedWord} (h : entry.isStraight = true) {q : Position} :
    q ∈ entry.placement.cells ↔ ∃ c, (q, c) ∈ entry.lettered := by
  rw [← map_fst_lettered h, List.mem_map]
  constructor
  · intro hex
    obtain ⟨⟨_, c⟩, hmem, rfl⟩ := hex
    exact ⟨c, hmem⟩
  · intro hex
    obtain ⟨c, hmem⟩ := hex
    exact ⟨(q, c), hmem, rfl⟩

theorem nodup_cells {entry : PlacedWord} (h : entry.isStraight = true) :
    entry.placement.cells.Nodup :=
  Placement.nodup_of_isContiguous (isStraight_iff.mp h).2

/-- A straight word puts one letter on a square. -/
theorem letter_unique {entry : PlacedWord} (h : entry.isStraight = true) {q : Position}
    {c d : Char} (hc : (q, c) ∈ entry.lettered) (hd : (q, d) ∈ entry.lettered) : c = d := by
  rw [entry.lettered_eq, Placement.lettered] at hc hd
  obtain ⟨i, hi⟩ := List.mem_iff_getElem?.mp hc
  obtain ⟨j, hj⟩ := List.mem_iff_getElem?.mp hd
  rw [List.getElem?_zip_eq_some] at hi hj
  obtain ⟨hlt, -⟩ := List.getElem?_eq_some_iff.mp hi.1
  have hij : i = j := (List.getElem?_inj hlt (nodup_cells h)).mp (hi.1.trans hj.1.symm)
  subst hij
  exact Option.some.inj (hi.2.symm.trans hj.2)

end PlacedWord

namespace Grid

/-- A word fits where it stays on the grid and meets no letter but its own. -/
theorem fits_iff_letterAt? {g : Grid} {word : String} {a : Anchor} :
    g.fits word a = true ↔ a.StaysInside word g.rows g.cols ∧
      ∀ q c d, a.letterAt? word q = some c → g.get? q = some (.letter d) → c = d := by
  rw [fits_iff]
  constructor
  · intro h
    have hstays : a.StaysInside word g.rows g.cols := by
      intro i hi
      rw [← String.length_toList] at hi
      obtain ⟨q, _, hq, -⟩ := h i _ (List.getElem?_eq_getElem hi)
      exact ⟨q, hq⟩
    refine ⟨hstays, ?_⟩
    intro q c d hc hd
    obtain ⟨hrows, hcols⟩ := hstays.inside hc
    obtain ⟨i, hi, hr, hcol⟩ := Anchor.letterAt?_eq_some_iff.mp hc
    obtain ⟨q', s, hq', hs, haccepts⟩ := h i c hi
    obtain rfl : q = q' := Option.some.inj
      ((Anchor.square?_eq_some_iff.mpr ⟨hr, hcol, hrows, hcols⟩).symm.trans hq')
    obtain rfl : .letter d = s := Option.some.inj (hd.symm.trans hs)
    exact (beq_iff_eq.mp haccepts).symm
  · intro h i c hi
    obtain ⟨hstays, hagrees⟩ := h
    obtain ⟨hlt, -⟩ := List.getElem?_eq_some_iff.mp hi
    obtain ⟨q, hq⟩ := hstays i (String.length_toList ▸ hlt)
    obtain ⟨hr, hc, hrows, hcols⟩ := Anchor.square?_eq_some_iff.mp hq
    obtain ⟨s, hs⟩ := Option.isSome_iff_exists.mp (Board.isSome_get?_iff.mpr ⟨hrows, hcols⟩)
    refine ⟨q, s, hq, hs, Cell.accepts_eq_true_iff.mpr ?_⟩
    cases s with
    | blank => exact Or.inl rfl
    | letter d =>
      have hcd := hagrees q c d (Anchor.letterAt?_eq_some_iff.mpr ⟨i, hi, hr, hc⟩) hs
      exact Or.inr (hcd ▸ rfl)

/-- Where a word fits, each of its squares is blank or holds its letter. -/
theorem accepts_of_fits {g : Grid} {word : String} {a : Anchor} {p : Placement}
    (h : g.fits word a = true) (hp : Placement.ofAnchor? a word.length g.rows g.cols = some p)
    {q : Position} {c : Char} (hq : (q, c) ∈ p.lettered word) :
    g.get? q = some .blank ∨ g.get? q = some (.letter c) := by
  obtain ⟨hstays, hagrees⟩ := fits_iff_letterAt?.mp h
  have hc := (Placement.mem_lettered_iff hp).mp hq
  obtain ⟨s, hs⟩ := Option.isSome_iff_exists.mp (Board.isSome_get?_iff.mpr (hstays.inside hc))
  cases s with
  | blank => exact Or.inl hs
  | letter d => exact Or.inr (hagrees q c d hc hs ▸ hs)

end Grid

end Crossword
