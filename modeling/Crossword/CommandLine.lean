import Crossword.CommandLine.Options

/-!
# The command line

Arguments are read from left to right. An option's value may follow it as the next argument, or be
attached to it: `--seed=7`, `-s=7`, `-s7`. Letters may share one dash, the last of them may take a
value. After `--` every argument is a path, and a single dash is one anywhere.

A value is looked at when the next argument has been recognised. An argument that is not recognised
stops the reading before that, so it is reported rather than a bad value just before it.
-/

namespace Crossword

/-- A command line read in part. -/
structure Reading where
  options : Options := {}
  /-- The options that have got their value. -/
  filled : List Slot := []
  raised : List Flag := []
  /-- What was named last, with its value once that is there. -/
  pending : Option (Slot × Option String) := none
  /-- Set once the path of the word list has been met. -/
  pathMet : Bool := false
  /-- Set once every argument is a path. -/
  pathsOnly : Bool := false

namespace Reading

/-- Puts a value where it belongs, unless there is one already. -/
def fill (r : Reading) (slot : Slot) (text : String) : Except UsageStop Reading := do
  if r.filled.contains slot then
    throw (.fault .repeated)
  let options ← r.options.set text slot
  return { r with options, filled := slot :: r.filled }

/-- Settles what was named last. -/
def settle (r : Reading) : Except UsageStop Reading :=
  match r.pending with
  | none => .ok r
  | some (_, none) => .error (.fault .missingValue)
  | some (slot, some text) => { r with pending := none }.fill slot text

/-- An option whose value is still to come. -/
def await (r : Reading) (slot : Slot) : Except UsageStop Reading := do
  let r ← r.settle
  return { r with pending := some (slot, none) }

/-- An option with its value attached. -/
def give (r : Reading) (slot : Slot) (text : String) : Except UsageStop Reading := do
  let r ← r.settle
  r.fill slot text

/-- A flag. -/
def raise (r : Reading) (flag : Flag) : Except UsageStop Reading := do
  let r ← r.settle
  let options ← r.options.raise flag
  if r.raised.contains flag then
    throw (.fault .repeated)
  return { r with options, raised := flag :: r.raised }

/-- A path; there can be one only. -/
def path (r : Reading) (text : String) : Except UsageStop Reading :=
  if r.pathMet then
    .error (.fault .unknown)
  else do
    let r ← r.settle
    return { r with pending := some (.words, some text), pathMet := true }

/-- An argument that is no option: the value that is waited for, or else a path. -/
def value (r : Reading) (text : String) : Except UsageStop Reading :=
  match r.pending with
  | some (slot, none) => .ok { r with pending := some (slot, some text) }
  | _ => r.path text

/-- A long name, with the value attached to it. -/
def long (r : Reading) (name : String) (attached : Option String) : Except UsageStop Reading :=
  match Slot.ofName? name, Flag.ofName? name, attached with
  | some slot, _, none => r.await slot
  | some slot, _, some text => r.give slot text
  | none, some flag, none => r.raise flag
  | none, some _, some _ => .error (.fault .unexpectedValue)
  | none, none, _ => .error (.fault .unknown)

/-- Letters that share a dash. -/
def letters (r : Reading) : List Char → Except UsageStop Reading
  | [] => .ok r
  | letter :: rest =>
    match Flag.ofLetter? letter, Slot.ofLetter? letter with
    | some flag, _ => do
      let r ← r.raise flag
      r.letters rest
    | none, some slot =>
      match rest with
      | [] => r.await slot
      | '=' :: text => r.give slot (String.ofList text)
      | text => r.give slot (String.ofList text)
    | none, none => .error (.fault .unknown)

/-- The name before an equals sign, and the value after it if there is one. -/
def splitName (cs : List Char) : String × Option String :=
  let name := String.ofList (cs.takeWhile (· ≠ '='))
  match cs.dropWhile (· ≠ '=') with
  | [] => (name, none)
  | _ :: text => (name, some (String.ofList text))

/-- Reads one argument. -/
def argument (r : Reading) (text : String) : Except UsageStop Reading :=
  if r.pathsOnly then
    r.path text
  else
    match text.toList with
    | ['-', '-'] => .ok { r with pathsOnly := true }
    | '-' :: '-' :: rest =>
      let (name, attached) := splitName rest
      r.long name attached
    | '-' :: letter :: rest => r.letters (letter :: rest)
    | _ => r.value text

/-- The options, if a word list is named. -/
def finish (r : Reading) : Except UsageStop Options := do
  let r ← r.settle
  if r.pathMet then
    return r.options
  else
    throw (.fault .missingWords)

end Reading

/-- Reads a command line, without the name of the program. -/
def readCommandLine (args : List String) : Except UsageStop Options := do
  let r ← args.foldlM Reading.argument {}
  r.finish

end Crossword
