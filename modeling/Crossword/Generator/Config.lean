import Crossword.Error
import Crossword.Grid
import Crossword.Search.Budget
import Crossword.WordList

/-!
# Generator parameters

The parameters of a generator with their usual values, and the check of their ranges.
-/

namespace Crossword

/-- How a generator goes about its work. -/
structure Config where
  /-- Determines the seeds of all attempts. -/
  seed : UInt64 := 42
  maxAttempts : Nat := 8
  /-- Placements that one attempt may take back. -/
  backtrackBudget : Nat := 200000
  /-- Nanoseconds that one attempt may take. -/
  timeBudget : Option Nat := none
  /-- How many finished layouts are compared. -/
  bestOf : Nat := 1
  casePolicy : CasePolicy := .preserve
  /-- The side of the grid, if it is not to depend on the words. -/
  gridSide : Option Nat := none
  deriving DecidableEq

namespace Config

/-- The usual parameters. -/
def usual : Config := {}

/-- The error of a parameter that must not be zero. -/
def zero (parameter : Parameter) (value : String) : Error :=
  .invalidParameter parameter value parameter.requirement

/-- Reports the first parameter that is out of range. -/
def check (c : Config) : Except Error Unit :=
  if c.maxAttempts = 0 then .error (zero .maxAttempts "0")
  else if c.backtrackBudget = 0 then .error (zero .backtrackBudget "0")
  else if c.timeBudget = some 0 then .error (zero .timeBudget "0ns")
  else if c.bestOf = 0 then .error (zero .bestOf "0")
  else .ok ()

/-- The budget of one attempt. -/
def budget (c : Config) : Budget := ⟨c.backtrackBudget, c.timeBudget⟩

/-- The side of the grid for a list of words. -/
def sideFor (c : Config) (words : List String) : Nat := c.gridSide.getD (Grid.sideFor words)

end Config

end Crossword
