import Crossword.Random.Keystream

/-!
# Shuffling

Each item in turn is swapped with one at a random place up to its own. The places are the digits of
random numbers: one number is drawn for as many places as fit into a word. A shuffled list is a
permutation of the list (`shuffle_perm`).
-/

namespace Crossword

/-- The numbers from which places are taken. -/
structure PlaceSource where
  stream : Keystream
  /-- What is left of the number drawn last. -/
  chunk : Nat
  /-- How many places it still holds. -/
  left : Nat

namespace PlaceSource

/-- The product of consecutive factors, as many as keep it within a word, and the factor that
follows them. -/
def product (product factor : Nat) : Nat × Nat :=
  if h : 0 < product ∧ 1 < factor ∧ product * factor < UInt32.size then
    PlaceSource.product (product * factor) (factor + 1)
  else
    (product, factor)
termination_by UInt32.size - product
decreasing_by
  have : product < product * factor := (Nat.lt_mul_iff_one_lt_right h.1).mpr h.2.1
  omega

/-- Draws a number for the next places if none is left. -/
def refill (s : PlaceSource) (bound : Nat) : PlaceSource :=
  if s.left = 0 then
    let (range, next) := product bound (bound + 1)
    let (chunk, stream) := s.stream.below range
    ⟨stream, chunk, next - bound⟩
  else
    s

/-- A place below a bound; the bounds asked for rise by one. -/
def next (s : PlaceSource) (bound : Nat) : Nat × PlaceSource :=
  let s := s.refill bound
  if s.left = 1 then
    (s.chunk, { s with left := 0 })
  else
    (s.chunk % bound, { s with chunk := s.chunk / bound, left := s.left - 1 })

end PlaceSource

/-- Swaps items with earlier ones, from a given one on; `count` items are left. -/
def shuffleFrom {α : Type} (s : PlaceSource) (xs : Array α) : (count done : Nat) →
    Array α × Keystream
  | 0, _ => (xs, s.stream)
  | count + 1, done =>
    let (place, s) := s.next (done + 1)
    shuffleFrom s (xs.swapIfInBounds done place) count (done + 1)

/-- A random permutation of a list. Nothing is drawn for a list with fewer than two items. -/
def shuffle {α : Type} (xs : List α) (stream : Keystream) : List α × Keystream :=
  if xs.length ≤ 1 then
    (xs, stream)
  else
    let (ys, stream) := shuffleFrom ⟨stream, 0, 1⟩ xs.toArray xs.length 0
    (ys.toList, stream)

theorem swapIfInBounds_perm {α : Type} (xs : Array α) (i j : Nat) :
    (xs.swapIfInBounds i j).Perm xs := by
  unfold Array.swapIfInBounds
  split
  · split
    · exact Array.swap_perm ..
    · exact .rfl
  · exact .rfl

theorem shuffleFrom_perm {α : Type} (s : PlaceSource) (xs : Array α) (count done : Nat) :
    (shuffleFrom s xs count done).1.Perm xs := by
  induction count generalizing s xs done with
  | zero => exact .rfl
  | succ count ih =>
    simp only [shuffleFrom]
    exact (ih ..).trans (swapIfInBounds_perm ..)

/-- A shuffled list has the same items. -/
theorem shuffle_perm {α : Type} (xs : List α) (stream : Keystream) :
    (shuffle xs stream).1.Perm xs := by
  unfold shuffle
  split
  · exact .refl _
  · simpa [Array.perm_iff_toList_perm] using shuffleFrom_perm ⟨stream, 0, 1⟩ xs.toArray xs.length 0

end Crossword
