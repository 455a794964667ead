import Crossword.Program

/-!
# Entry point

Reads files and the time from the system and hands the arguments to the program.
-/

namespace Crossword.Main

/-- The fault with a number of the system, which may be given as its negative. -/
def faultOfCode (code : UInt32) (text : String) : FileFault :=
  match min code (0 - code) with
  | 2 => .system .notFound
  | 13 => .system .permissionDenied
  | 20 => .system .notADirectory
  | 21 => .system .isADirectory
  | 36 => .system .nameTooLong
  | _ => .described text

/-- The fault behind an error of the system. -/
def faultOf (e : IO.Error) : FileFault :=
  match e with
  | .noFileOrDirectory _ code _ => faultOfCode code (toString e)
  | .permissionDenied _ code _ => faultOfCode code (toString e)
  | .inappropriateType _ code _ => faultOfCode code (toString e)
  | .invalidArgument _ code _ => faultOfCode code (toString e)
  | _ => .described (toString e)

/-- Reads a file of the system. -/
def readFile : Reader IO := fun path => do
  if path.contains '\x00' then
    return .error .nulInPath
  try
    return .ok (← IO.FS.readBinFile path)
  catch e =>
    return .error (faultOf e)

/-- Starts a timer of the system. -/
def startTimer : Timers IO := fun _ => do
  let started ← IO.monoNanosNow
  return fun _ => return (← IO.monoNanosNow) - started

end Crossword.Main

/-- Runs the program on the files of the system. -/
def main (args : List String) : IO UInt32 := do
  let exit ← Crossword.Program.run Crossword.Main.readFile Crossword.Main.startTimer args
  (← IO.getStderr).putStr exit.err
  (← IO.getStdout).putStr exit.out
  return exit.code.toUInt32
