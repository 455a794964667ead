import Crossword.Error
import Crossword.Text.Case

/-!
# Clues

A clue for each of some words. Words that differ in letter case only have one clue between them; a
word without a clue is shown with a fixed text.
-/

namespace Crossword

/-- Clues by word in lower case, each word once. -/
structure Clues where
  entries : List (String × String)

namespace Clues

/-- What is shown for a word without a clue. -/
def missing : String := "No clue provided"

/-- No clues. -/
def empty : Clues := ⟨[]⟩

/-- Gives a word a clue in place of the one it had. -/
def insert (c : Clues) (word clue : String) : Clues :=
  let key := Text.lower word
  ⟨(key, clue) :: c.entries.filter fun entry => entry.1 ≠ key⟩

/-- The clue of a word. -/
def find? (c : Clues) (word : String) : Option String := c.entries.lookup (Text.lower word)

/-- The clue to show for a word. -/
def clueFor (c : Clues) (word : String) : String := (c.find? word).getD missing

/-- Number of words with a clue. -/
def size (c : Clues) : Nat := c.entries.length

/-- Holds if there are no clues. -/
def isEmpty (c : Clues) : Bool := c.entries.isEmpty

/-- Gives each word the clue at its place; later words win. -/
def insertAll (c : Clues) (pairs : List (String × String)) : Clues :=
  pairs.foldl (fun c (word, clue) => c.insert word clue) c

/-- Pairs words with clues by place. There must be as many of the one as of the other. -/
def ofLists (words clues : List String) : Except Error Clues :=
  if words.length = clues.length then
    .ok (empty.insertAll (words.zip clues))
  else
    .error (.invalidInput (.clueCount words.length clues.length))

/-- Dropping the entries of one key does not change what is found under another. -/
private theorem lookup_dropKey {entries : List (String × String)} {key other : String}
    (h : other ≠ key) :
    (entries.filter fun entry => entry.1 ≠ key).lookup other = entries.lookup other := by
  have hb : (other == key) = false := beq_eq_false_iff_ne.mpr h
  induction entries with
  | nil => rfl
  | cons entry rest ih =>
    obtain ⟨k, clue⟩ := entry
    by_cases hk : k = key
    · simpa [List.lookup_cons, hk, hb] using ih
    · simp only [ne_eq, hk, not_false_eq_true, decide_true, List.filter_cons_of_pos,
        List.lookup_cons, ih]

/-- A new clue is found under every spelling of its word, and the other clues are as before. -/
theorem find?_insert (c : Clues) (word clue other : String) :
    (c.insert word clue).find? other =
      if Text.lower other = Text.lower word then some clue else c.find? other := by
  simp only [find?, insert, List.lookup_cons]
  by_cases h : Text.lower other = Text.lower word
  · simp [h]
  · rw [beq_eq_false_iff_ne.mpr h, if_neg h]
    exact lookup_dropKey h

end Clues

end Crossword
