import Crossword.CommandLine
import Crossword.Error.Record
import Crossword.Generator
import Crossword.Preview
import Crossword.PuzzleInput

/-!
# The program

From the arguments to the exit: the options are read, the lists are loaded, a puzzle is made, and
its preview is the output. Where files are is left to the reader that is passed in, and how the time
is read to the timers.
-/

namespace Crossword

/-- How the program ends. -/
structure Exit where
  code : UInt8
  /-- The output. -/
  out : String
  /-- The messages. -/
  err : String

namespace Program

/-- The text that shows the version. -/
def versionText : String := "crossgrid 0.1.0\n"

/-- The text that lists the options. -/
def helpText : String :=
  "\n".intercalate
    ["Lay out words as an interlocking crossword grid",
      "",
      "Usage: crossgrid [OPTIONS] <WORDS>",
      "",
      "Arguments:",
      "  <WORDS>  Word list file, one word per line",
      "",
      "Options:",
      "  -c, --clues <CLUES>            Clue list file, one clue per line in word order",
      "  -T, --title <TITLE>            Puzzle title shown above the preview",
      "  -s, --seed <SEED>              Random seed for reproducible generation [default: 42]",
      "  -a, --attempts <ATTEMPTS>      Maximum search attempts [default: 8]",
      "  -b, --budget <BUDGET>          Backtracks allowed per attempt [default: 200000]",
      "  -t, --timeout-ms <TIMEOUT_MS>  Wall-clock limit per attempt in milliseconds",
      "      --side <SIDE>              Fixed grid side instead of twice the longest word",
      "  -k, --best-of <BEST_OF>        Compare this many solved layouts and keep the most " ++
        "compact [default: 1]",
      "  -u, --uppercase                Upper-case words before placement",
      "  -q, --quiet                    Suppress progress output",
      "  -h, --help                     Print help",
      "  -V, --version                  Print version",
      ""]

/-- The exit when there are no options. -/
def stopExit : UsageStop → Exit
  | .help => ⟨0, helpText, ""⟩
  | .version => ⟨0, versionText, ""⟩
  | .fault fault => ⟨2, "", s!"error: {fault.message}\n\nFor more information, try '--help'.\n"⟩

/-- What a finished puzzle took. -/
def summary (p : Puzzle) : String :=
  let s := p.statistics
  s!"Placed {p.layout.size} words on a {p.grid.rows}x{p.grid.cols} grid " ++
    s!"after {s.attempts} attempt(s), {s.states} states, {s.backtracks} backtracks\n"

variable {m : Type → Type} [Monad m]

/-- Loads the lists and makes the puzzle. -/
def makePuzzle (read : Reader m) (timers : Timers m) (o : Options) :
    m (Except Error (PuzzleInput × Puzzle)) := do
  match ← PuzzleInput.load read o.words o.clues o.title with
  | .error e => return .error e
  | .ok input =>
    let made ← generateM o.config timers input.words
    return made.map fun puzzle => (input, puzzle)

/-- The preview of the puzzle that the options ask for. -/
def previewFor (read : Reader m) (timers : Timers m) (o : Options) : m (Except Error String) := do
  let made ← makePuzzle read timers o
  return made.map fun (input, puzzle) => preview puzzle input.clues input.title

/-- Runs the program on its arguments. -/
def run (read : Reader m) (timers : Timers m) (args : List String) : m Exit := do
  match readCommandLine args with
  | .error stop => return stopExit stop
  | .ok o =>
    match ← makePuzzle read timers o with
    | .error e => return ⟨1, "", s!"Error: {e.record}\n"⟩
    | .ok (input, puzzle) =>
      return ⟨0, preview puzzle input.clues input.title,
        if o.showsProgress then summary puzzle else ""⟩

end Program

end Crossword
