import Crossword.Search.Statistics
import Mathlib

/-!
# Adding up statistics

Counters of several searches are added up by `Statistics.absorb`. It does not matter in which order
(`Statistics.total_perm`), so the work of a search can be told without the order of its steps.
-/

namespace Crossword

namespace Statistics

/-! ## Two at a time -/

theorem absorb_assoc (r s t : Statistics) : (r.absorb s).absorb t = r.absorb (s.absorb t) := by
  unfold absorb
  simp only [Nat.add_assoc, Nat.max_assoc]

theorem absorb_comm (s t : Statistics) : s.absorb t = t.absorb s := by
  unfold absorb
  rw [mk.injEq]
  omega

theorem absorb_empty (s : Statistics) : s.absorb {} = s := by
  unfold absorb
  simp only [Nat.add_zero, Nat.max_zero]

theorem empty_absorb (s : Statistics) : ({} : Statistics).absorb s = s := by
  rw [absorb_comm]
  exact absorb_empty s

/-- One attempt more. -/
theorem absorb_attempt (s : Statistics) :
    s.absorb { attempts := 1 } = { s with attempts := s.attempts + 1 } := by
  show Statistics.mk .. = _
  simp

theorem attempt_absorb (s : Statistics) :
    ({ attempts := 1 } : Statistics).absorb s = { s with attempts := s.attempts + 1 } :=
  (absorb_comm ..).trans (absorb_attempt s)

instance : Std.Associative absorb := ⟨absorb_assoc⟩

instance : Std.Commutative absorb := ⟨absorb_comm⟩

/-! ## Any number of them -/

/-- The sum of several counters; the deepest of all is kept. -/
def total (items : List Statistics) : Statistics := items.foldl absorb {}

theorem foldl_absorb (s : Statistics) (items : List Statistics) :
    items.foldl absorb s = s.absorb (total items) := by
  induction items generalizing s with
  | nil => exact (absorb_empty s).symm
  | cons t rest ih =>
    unfold total
    rw [List.foldl_cons, List.foldl_cons, ih, ih (absorb {} t), empty_absorb, absorb_assoc]

theorem total_cons (s : Statistics) (items : List Statistics) :
    total (s :: items) = s.absorb (total items) := by
  unfold total
  rw [List.foldl_cons, empty_absorb]
  exact foldl_absorb s items

theorem total_append (items others : List Statistics) :
    total (items ++ others) = (total items).absorb (total others) := by
  rw [total, List.foldl_append]
  exact foldl_absorb (total items) others

theorem total_singleton (s : Statistics) : total [s] = s := empty_absorb s

/-- The order of the items does not matter. -/
theorem total_perm {items others : List Statistics} (h : items.Perm others) :
    total items = total others :=
  h.foldl_eq _

/-- A counter whose numbers are added two at a time is added up over the items. -/
theorem counter_total {counter : Statistics → Nat} (hempty : counter {} = 0)
    (habsorb : ∀ s t : Statistics, counter (s.absorb t) = counter s + counter t)
    (items : List Statistics) : counter (total items) = (items.map counter).sum := by
  induction items with
  | nil => exact hempty
  | cons s rest ih => rw [total_cons, habsorb, ih, List.map_cons, List.sum_cons]

theorem backtracks_total (items : List Statistics) :
    (total items).backtracks = (items.map (·.backtracks)).sum :=
  counter_total rfl (fun _ _ => rfl) items

theorem attempts_total (items : List Statistics) :
    (total items).attempts = (items.map (·.attempts)).sum :=
  counter_total rfl (fun _ _ => rfl) items

/-- The depth of all items is within a bound if the depth of each one is. -/
theorem deepest_total_le_iff {items : List Statistics} {n : Nat} :
    (total items).deepest ≤ n ↔ ∀ s ∈ items, s.deepest ≤ n := by
  induction items with
  | nil => exact ⟨fun _ s hs => absurd hs List.not_mem_nil, fun _ => Nat.zero_le n⟩
  | cons s rest ih =>
    rw [total_cons, List.forall_mem_cons, ← ih]
    exact Nat.max_le

/-! ## Counters on the way -/

/-- Counters are on the way to others if something more makes them the others. -/
def OnTheWay (s t : Statistics) : Prop := ∃ more, s.absorb more = t

theorem OnTheWay.refl (s : Statistics) : s.OnTheWay s := ⟨{}, absorb_empty s⟩

theorem OnTheWay.trans {r s t : Statistics} (h : r.OnTheWay s) (h' : s.OnTheWay t) :
    r.OnTheWay t := by
  obtain ⟨more, rfl⟩ := h
  obtain ⟨others, rfl⟩ := h'
  exact ⟨more.absorb others, (absorb_assoc r more others).symm⟩

/-- Counters on the way are nowhere ahead. -/
theorem OnTheWay.le {s t : Statistics} (h : s.OnTheWay t) : s.states ≤ t.states ∧
    s.candidates ≤ t.candidates ∧ s.backtracks ≤ t.backtracks ∧ s.deepest ≤ t.deepest := by
  obtain ⟨more, rfl⟩ := h
  exact ⟨Nat.le_add_right .., Nat.le_add_right .., Nat.le_add_right .., Nat.le_max_left ..⟩

end Statistics

end Crossword
