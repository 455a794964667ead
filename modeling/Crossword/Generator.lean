import Crossword.Generator.Config
import Crossword.Generator.Report
import Crossword.Layout.Consistency
import Crossword.Puzzle

/-!
# The generator

A generator makes attempt after attempt, each on a fresh grid, with a timer and a seed of its own;
the seeds are drawn from one stream. An abandoned attempt is followed by another one. An attempt
that exhausts the search ends the matter, since no seed can do better. Of the layouts found, the
first of the smallest area is kept.
-/

namespace Crossword

/-- A generator with what is left of its stream of seeds. -/
structure Generator where
  config : Config
  seeds : Keystream

/-- What the attempts of one call have come to so far. -/
structure Campaign where
  seeds : Keystream
  totals : Statistics := {}
  /-- The smallest puzzle so far. -/
  best : Option Puzzle := none
  /-- Number of layouts found. -/
  solved : Nat := 0
  /-- The attempts so far, in order. -/
  reports : Array Report := #[]

namespace Campaign

/-- Notes a finished attempt. -/
def note (c : Campaign) (report : Report) : Campaign :=
  { c with
    totals := c.totals.absorb report.statistics
    reports := c.reports.push report }

/-- Draws the seed of the next attempt. -/
def drawSeed (c : Campaign) : UInt64 × Campaign :=
  let (seed, seeds) := c.seeds.next64
  (seed, { c with seeds })

/-- The smaller of two puzzles, the earlier one if they are of one size. -/
def smaller : Option Puzzle → Puzzle → Puzzle
  | none, puzzle => puzzle
  | some current, puzzle => if puzzle.area < current.area then puzzle else current

/-- Counts a layout and keeps it if it is the smallest. -/
def keep (c : Campaign) (puzzle : Puzzle) : Campaign :=
  { c with best := some (smaller c.best puzzle), solved := c.solved + 1 }

/-- The result when no more attempts are made. -/
def verdict (c : Campaign) : Except Error Puzzle :=
  match c.best with
  | some puzzle => .ok (puzzle.withStatistics c.totals)
  | none => .error (.searchAbandoned c.totals.attempts c.totals.backtracks)

section Attempts

variable {m : Type → Type} [Monad m] (config : Config)

/-- Makes a number of attempts, the first of which has the given number. -/
@[specialize]
def attemptsM (timers : Timers m) (words : List String) (side : Nat) :
    (count number : Nat) → Campaign → m (Except Error Puzzle × Campaign)
  | 0, _, c => pure (c.verdict, c)
  | count + 1, number, c => do
    let (seed, c) := c.drawSeed
    let timer ← timers number
    let (outcome, placer, _) ←
      (Placer.onSide words side config.budget).runM timer (.ofSeed seed)
    let c := c.note ⟨number, config.maxAttempts, seed, outcome, placer.statistics⟩
    match outcome with
    | .abandoned => attemptsM timers words side count (number + 1) c
    | .exhausted => pure (.error (.infeasible number c.totals.deepest words.length), c)
    | .solved =>
      match placer.draft.layout.check placer.draft.grid with
      | .error e => pure (.error e, c)
      | .ok () =>
        let c := c.keep (.ofSearch placer.draft.grid placer.draft.layout placer.statistics)
        if config.bestOf ≤ c.solved then pure (c.verdict, c)
        else attemptsM timers words side count (number + 1) c

/-- As `attemptsM`, where the times are those of clocks. -/
def attempts (clocks : Clocks) (words : List String) (side count number : Nat) (c : Campaign) :
    Except Error Puzzle × Campaign :=
  Id.run (attemptsM config clocks.timers words side count number c)

variable (clocks : Clocks) (words : List String) (side number : Nat) (c : Campaign)

theorem attempts_none : attempts config clocks words side 0 number c = (c.verdict, c) := rfl

theorem attempts_more (count : Nat) : attempts config clocks words side (count + 1) number c =
    let (seed, c) := c.drawSeed
    let (outcome, placer, _) :=
      (Placer.onSide words side config.budget).run (clocks number) (.ofSeed seed)
    let c := c.note ⟨number, config.maxAttempts, seed, outcome, placer.statistics⟩
    match outcome with
    | .abandoned => attempts config clocks words side count (number + 1) c
    | .exhausted => (.error (.infeasible number c.totals.deepest words.length), c)
    | .solved =>
      match placer.draft.layout.check placer.draft.grid with
      | .error e => (.error e, c)
      | .ok () =>
        let c := c.keep (.ofSearch placer.draft.grid placer.draft.layout placer.statistics)
        if config.bestOf ≤ c.solved then (c.verdict, c)
        else attempts config clocks words side count (number + 1) c :=
  rfl

end Attempts

end Campaign

namespace Generator

/-- A generator with acceptable parameters. -/
def ofConfig (config : Config) : Except Error Generator := do
  config.check
  return ⟨config, .ofSeed config.seed⟩

section Generate

variable {m : Type → Type} [Monad m]

/-- Makes a puzzle of a list of words, with a report of each attempt. -/
@[specialize]
def generateM (g : Generator) (timers : Timers m) (words : List String) :
    m (Except Error Puzzle × Array Report × Generator) :=
  let words := prepareWords g.config.casePolicy words
  let side := g.config.sideFor words
  match checkWords words side with
  | .error e => pure (.error e, #[], g)
  | .ok () => do
    let (result, c) ←
      Campaign.attemptsM g.config timers words side g.config.maxAttempts 1 { seeds := g.seeds }
    return (result, c.reports, { g with seeds := c.seeds })

/-- As `generateM`, where the times are those of clocks. -/
def generate (g : Generator) (clocks : Clocks) (words : List String) :
    Except Error Puzzle × Array Report × Generator :=
  Id.run (g.generateM clocks.timers words)

end Generate

end Generator

/-- Makes a puzzle of a list of words with a generator of its own. -/
@[specialize]
def generateM {m : Type → Type} [Monad m] (config : Config) (timers : Timers m)
    (words : List String) : m (Except Error Puzzle) := do
  match Generator.ofConfig config with
  | .error e => return .error e
  | .ok generator => return (← generator.generateM timers words).1

/-- As `generateM`, where the times are those of clocks. -/
def generate (config : Config) (clocks : Clocks) (words : List String) : Except Error Puzzle :=
  Id.run (generateM config clocks.timers words)

end Crossword
