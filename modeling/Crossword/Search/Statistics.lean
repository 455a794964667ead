/-!
# Search statistics

What is counted while words are placed, and the sum over several attempts.
-/

namespace Crossword

/-- Counters of a search. -/
structure Statistics where
  /-- States entered, one for each word to be placed. -/
  states : Nat := 0
  /-- Placements taken back because the words after them found no room. -/
  backtracks : Nat := 0
  /-- Anchors on offer in all states. -/
  candidates : Nat := 0
  /-- The most words placed at one time. -/
  deepest : Nat := 0
  /-- Attempts that contributed. -/
  attempts : Nat := 0
  /-- Nanoseconds spent. -/
  elapsed : Nat := 0
  deriving DecidableEq

namespace Statistics

/-- Adds the counters of another attempt; the deepest of both is kept. -/
def absorb (s t : Statistics) : Statistics where
  states := s.states + t.states
  backtracks := s.backtracks + t.backtracks
  candidates := s.candidates + t.candidates
  deepest := max s.deepest t.deepest
  attempts := s.attempts + t.attempts
  elapsed := s.elapsed + t.elapsed

end Statistics

end Crossword
