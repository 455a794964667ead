import Crossword.Search.Clock
import Crossword.Search.Statistics

/-!
# Search budgets

How much a search may do before it is abandoned: a number of placements taken back, and a time that
is looked at once in every sixty-four states.
-/

namespace Crossword

/-- Limits on the work of one search. -/
structure Budget where
  maxBacktracks : Nat
  /-- Nanoseconds, if time is limited. -/
  timeLimit : Option Nat
  deriving DecidableEq

namespace Budget

/-- The time is looked at in the states whose number is a multiple of this one. -/
def clockInterval : Nat := 64

/-- Holds if the time is up when a state is entered. -/
def timeUp (b : Budget) (clock : Clock) (state : Nat) : Bool :=
  match b.timeLimit with
  | none => false
  | some limit => state % clockInterval = 0 && limit ≤ clock state

/-- Holds if a search with these counters must be abandoned. -/
def spent (b : Budget) (clock : Clock) (s : Statistics) : Bool :=
  b.maxBacktracks ≤ s.backtracks || b.timeUp clock s.states

/-- Reads the time if it may be up when a state is entered. -/
def look {m : Type → Type} [Monad m] (b : Budget) (timer : Timer m) (state : Nat) : m Nat :=
  if b.timeLimit.isSome && state % clockInterval = 0 then timer state else pure 0

variable {b : Budget} {clock : Clock} {s : Statistics}

/-- Only what the clock shows in the state that is entered matters. -/
theorem spent_congr {clock' : Clock} (h : clock s.states = clock' s.states) :
    b.spent clock s = b.spent clock' s := by
  unfold spent timeUp
  rw [h]

/-- Whether a search must be abandoned is seen from the time that is read. -/
theorem spent_look (b : Budget) (clock : Clock) (s : Statistics) :
    b.spent (fun _ => Id.run (b.look clock.timer s.states)) s = b.spent clock s := by
  unfold spent timeUp
  cases htime : b.timeLimit with
  | none => rfl
  | some limit =>
    by_cases hstate : s.states % clockInterval = 0
    · simp [look, Clock.timer, htime, hstate]
    · simp [hstate]

/-- Too many backtracks are too many at any time. -/
theorem spent_of_le (h : b.maxBacktracks ≤ s.backtracks) : b.spent clock s = true := by
  rw [spent, decide_eq_true h, Bool.true_or]

/-- Without a limit on time only the backtracks count. -/
theorem spent_untimed_iff (htime : b.timeLimit = none) :
    b.spent clock s = true ↔ b.maxBacktracks ≤ s.backtracks := by
  unfold spent timeUp
  rw [htime, Bool.or_false, decide_eq_true_eq]

/-- A limit of zero is up whenever the clock is looked at. -/
theorem spent_zero_iff (htime : b.timeLimit = some 0) :
    b.spent clock s = true ↔ b.maxBacktracks ≤ s.backtracks ∨ s.states % clockInterval = 0 := by
  unfold spent timeUp
  rw [htime]
  simp

end Budget

end Crossword
