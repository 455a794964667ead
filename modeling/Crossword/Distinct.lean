import Std.Data.HashSet

/-!
# Lists without repeats

Dropping repeated items, the first of equal ones being kept. The result has the same items
(`mem_distinct`), none of them twice (`nodup_distinct`).
-/

namespace Crossword

/-- A list without repeats: of equal items the first is kept. The items seen before are skipped. -/
def distinctAfter {α : Type} [BEq α] [Hashable α] (seen : Std.HashSet α) : List α → List α
  | [] => []
  | x :: rest =>
    if seen.contains x then distinctAfter seen rest
    else x :: distinctAfter (seen.insert x) rest

/-- The items kept so far, followed by those of a list that were not seen before, each once. -/
def distinctOnto {α : Type} [BEq α] [Hashable α] (seen : Std.HashSet α) (kept : Array α) :
    List α → List α
  | [] => kept.toList
  | x :: rest =>
    if seen.contains x then distinctOnto seen kept rest
    else distinctOnto (seen.insert x) (kept.push x) rest

/-- A list without repeats: of equal items the first is kept. -/
def distinct {α : Type} [BEq α] [Hashable α] (xs : List α) : List α := distinctOnto ∅ #[] xs

section Accumulated

variable {α : Type} [BEq α] [Hashable α]

/-- What is kept stands in front of what is still to be kept. -/
theorem distinctOnto_eq (seen : Std.HashSet α) (kept : Array α) (xs : List α) :
    distinctOnto seen kept xs = kept.toList ++ distinctAfter seen xs := by
  induction xs generalizing seen kept with
  | nil => simp [distinctOnto, distinctAfter]
  | cons y rest ih =>
    simp only [distinctOnto, distinctAfter, ih]
    split <;> simp

theorem distinct_eq (xs : List α) : distinct xs = distinctAfter ∅ xs := by
  simp [distinct, distinctOnto_eq]

end Accumulated

section Distinct

variable {α : Type} [BEq α] [Hashable α] [LawfulBEq α] [LawfulHashable α]

theorem mem_distinctAfter {seen : Std.HashSet α} {xs : List α} {x : α} :
    x ∈ distinctAfter seen xs ↔ x ∈ xs ∧ ¬ x ∈ seen := by
  induction xs generalizing seen with
  | nil => simp [distinctAfter]
  | cons y rest ih =>
    simp only [distinctAfter]
    split
    · next h =>
      have hy : y ∈ seen := by simpa using h
      rw [ih, List.mem_cons]
      constructor
      · rintro ⟨hr, hs⟩
        exact ⟨.inr hr, hs⟩
      · rintro ⟨rfl | hr, hs⟩
        · exact absurd hy hs
        · exact ⟨hr, hs⟩
    · next h =>
      have hy : ¬ y ∈ seen := by simpa using h
      rw [List.mem_cons, List.mem_cons, ih, Std.HashSet.mem_insert, beq_iff_eq]
      constructor
      · rintro (rfl | ⟨hr, hs⟩)
        · exact ⟨.inl rfl, hy⟩
        · exact ⟨.inr hr, fun hx => hs (.inr hx)⟩
      · rintro ⟨rfl | hr, hs⟩
        · exact .inl rfl
        · by_cases e : y = x
          · exact .inl e.symm
          · exact .inr ⟨hr, fun hx => hx.elim e hs⟩

theorem nodup_distinctAfter (seen : Std.HashSet α) (xs : List α) :
    (distinctAfter seen xs).Nodup := by
  induction xs generalizing seen with
  | nil => simp [distinctAfter]
  | cons y rest ih =>
    simp only [distinctAfter]
    split
    · exact ih seen
    · refine List.nodup_cons.mpr ⟨?_, ih _⟩
      rw [mem_distinctAfter]
      simp

/-- The same items are left. -/
theorem mem_distinct {xs : List α} {x : α} : x ∈ distinct xs ↔ x ∈ xs := by
  simp [distinct_eq, mem_distinctAfter]

/-- None of them twice. -/
theorem nodup_distinct (xs : List α) : (distinct xs).Nodup := by
  rw [distinct_eq]
  exact nodup_distinctAfter _ xs

end Distinct

end Crossword
