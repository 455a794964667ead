import Crossword.Search.Placer

/-!
# Attempt reports

What is told about each finished attempt: in numbers, in one line of text, and as the position of a
progress display.
-/

namespace Crossword

namespace Outcome

/-- The outcome as one word. -/
def name : Outcome → String
  | solved => "solved"
  | exhausted => "exhausted"
  | abandoned => "abandoned"

end Outcome

/-- A finished attempt. -/
structure Report where
  /-- The attempt's number, from one. -/
  attempt : Nat
  maxAttempts : Nat
  seed : UInt64
  outcome : Outcome
  /-- The counters of this attempt alone. -/
  statistics : Statistics
  deriving DecidableEq

namespace Report

/-- A seed as a number of sixteen digits. -/
def seedText (seed : UInt64) : String :=
  let digits := Nat.toDigits 16 seed.toNat
  "0x" ++ String.ofList (List.replicate (16 - digits.length) '0' ++ digits)

/-- The attempt in one line. -/
def describe (r : Report) : String :=
  s!"seed {seedText r.seed} {r.outcome.name} " ++
    s!"({r.statistics.states} states, {r.statistics.backtracks} backtracks)"

end Report

/-- How far a generator has come: the number of the attempt that finished last. -/
structure Progress where
  position : Nat := 0

namespace Progress

/-- Moves on to a finished attempt. -/
def record (_ : Progress) (r : Report) : Progress := ⟨r.attempt⟩

end Progress

end Crossword
