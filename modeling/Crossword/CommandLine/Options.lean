import Crossword.Generator.Config

/-!
# Options

What can be said on the command line: one path of a word list, options with a value, and flags.
Each value has its own form. Numbers are written in decimal digits, after a plus sign if need be,
and must fit into sixty-four bits.
-/

namespace Crossword

/-- What the command line says. -/
structure Options where
  /-- Path of the word list. -/
  words : String := ""
  /-- Path of the clue list. -/
  clues : Option String := none
  title : Option String := none
  seed : Nat := Config.usual.seed.toNat
  attempts : Nat := Config.usual.maxAttempts
  budget : Nat := Config.usual.backtrackBudget
  /-- Milliseconds that one attempt may take. -/
  timeout : Option Nat := none
  side : Option Nat := none
  bestOf : Nat := Config.usual.bestOf
  uppercase : Bool := false
  quiet : Bool := false

/-- What can be wrong with a command line. -/
inductive UsageFault where
  /-- No word list is named. -/
  | missingWords
  /-- There is no such option, or there is a second path. -/
  | unknown
  /-- A number is not a number in range. -/
  | badNumber
  /-- An option has no value, or an empty path. -/
  | missingValue
  /-- An option is given twice. -/
  | repeated
  /-- A flag is given a value. -/
  | unexpectedValue
  deriving DecidableEq

namespace UsageFault

/-- The fault in words. -/
def message : UsageFault → String
  | missingWords => "a word list file is required"
  | unknown => "there is an unexpected argument"
  | badNumber => "a number is not an integer from 0 to 18446744073709551615"
  | missingValue => "an option lacks its value"
  | repeated => "an option is given more than once"
  | unexpectedValue => "a flag is given a value"

end UsageFault

/-- Why a command line gives no options: a fault, or a wish to be told about the program. -/
inductive UsageStop where
  | fault (fault : UsageFault)
  /-- The options are to be listed. -/
  | help
  /-- The version is to be shown. -/
  | version
  deriving DecidableEq

/-- What takes a value: the path by itself, and the options with a value. -/
inductive Slot where
  | words
  | clues
  | title
  | seed
  | attempts
  | budget
  | timeout
  | side
  | bestOf
  deriving DecidableEq

/-- What takes no value. -/
inductive Flag where
  | uppercase
  | quiet
  | help
  | version
  deriving DecidableEq

namespace Slot

/-- The option of a long name. -/
def ofName? (name : String) : Option Slot :=
  [("clues", clues), ("title", title), ("seed", seed), ("attempts", attempts), ("budget", budget),
    ("timeout-ms", timeout), ("side", side), ("best-of", bestOf)].lookup name

/-- The option of a single letter. -/
def ofLetter? (letter : Char) : Option Slot :=
  [('c', clues), ('T', title), ('s', seed), ('a', attempts), ('b', budget), ('t', timeout),
    ('k', bestOf)].lookup letter

end Slot

namespace Flag

/-- The flag of a long name. -/
def ofName? (name : String) : Option Flag :=
  [("uppercase", uppercase), ("quiet", quiet), ("help", help), ("version", version)].lookup name

/-- The flag of a single letter. -/
def ofLetter? (letter : Char) : Option Flag :=
  [('u', uppercase), ('q', quiet), ('h', help), ('V', version)].lookup letter

end Flag

namespace Options

/-- The greatest number that can be given. -/
def maxNumber : Nat := UInt64.size - 1

/-- The value of decimal digits. -/
def digitsValue (digits : List Char) : Nat :=
  digits.foldl (fun n d => n * 10 + (d.toNat - '0'.toNat)) 0

/-- Reads a number: digits, after a plus sign if need be. -/
def number? (text : String) : Option Nat :=
  let digits :=
    match text.toList with
    | '+' :: rest => rest
    | cs => cs
  if digits ≠ [] ∧ digits.all Char.isDigit ∧ digitsValue digits ≤ maxNumber then
    some (digitsValue digits)
  else
    none

/-- Reads a number or stops. -/
def number (text : String) : Except UsageStop Nat :=
  (number? text).elim (.error (.fault .badNumber)) .ok

/-- Reads a path or stops; it must not be empty. -/
def path (text : String) : Except UsageStop String :=
  if text = "" then .error (.fault .missingValue) else .ok text

/-- Puts a value where it belongs. -/
def set (o : Options) (text : String) : Slot → Except UsageStop Options
  | .words => return { o with words := ← path text }
  | .clues => return { o with clues := some (← path text) }
  | .title => return { o with title := some text }
  | .seed => return { o with seed := ← number text }
  | .attempts => return { o with attempts := ← number text }
  | .budget => return { o with budget := ← number text }
  | .timeout => return { o with timeout := some (← number text) }
  | .side => return { o with side := some (← number text) }
  | .bestOf => return { o with bestOf := ← number text }

/-- Raises a flag; two of the flags stop at once. -/
def raise (o : Options) : Flag → Except UsageStop Options
  | .uppercase => .ok { o with uppercase := true }
  | .quiet => .ok { o with quiet := true }
  | .help => .error .help
  | .version => .error .version

/-- Holds unless progress is not to be shown. -/
def showsProgress (o : Options) : Bool := !o.quiet

/-- Nanoseconds in a millisecond. -/
def nanosPerMilli : Nat := 1000000

/-- The generator's parameters. -/
def config (o : Options) : Config where
  seed := UInt64.ofNat o.seed
  maxAttempts := o.attempts
  backtrackBudget := o.budget
  timeBudget := o.timeout.map (· * nanosPerMilli)
  bestOf := o.bestOf
  casePolicy := if o.uppercase then .upper else .preserve
  gridSide := o.side

end Options

end Crossword
