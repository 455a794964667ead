import Crossword.Clues
import Crossword.ListText

/-!
# Puzzle input

The words, clues and title of one puzzle, read from files. Reading is left to a function that gives
the bytes at a path, so that the same code serves any place where files may be.
-/

namespace Crossword

/-- A way to read files. -/
abbrev Reader (m : Type → Type) := String → m (Except FileFault ByteArray)

/-- What is supplied for one puzzle. -/
structure PuzzleInput where
  title : Option String
  /-- The words in the given order. -/
  words : List String
  clues : Clues

namespace PuzzleInput

/-- The text encoded by the bytes of a file. -/
def decode (bytes : ByteArray) : Except FileFault String :=
  match String.fromUTF8? bytes with
  | some text => .ok text
  | none => .error .notText

/-- The entries of a list file, from its bytes. -/
def entriesOf (path : String) (bytes : Except FileFault ByteArray) : Except Error (List String) :=
  match bytes.bind decode with
  | .ok text => .ok (ListText.parse text)
  | .error fault => .error (.fileSystem path .read fault)

variable {m : Type → Type} [Monad m]

/-- The entries of a list file. -/
def readList (read : Reader m) (path : String) : m (Except Error (List String)) := do
  return entriesOf path (← read path)

/-- Reads the words, and the clues if there is a file of them, one for each word. -/
def load (read : Reader m) (wordsPath : String) (cluesPath : Option String)
    (title : Option String) : m (Except Error PuzzleInput) := do
  match ← readList read wordsPath with
  | .error e => return .error e
  | .ok words =>
    match cluesPath with
    | none => return .ok ⟨title, words, .empty⟩
    | some path =>
      match ← readList read path with
      | .error e => return .error e
      | .ok clues => return (Clues.ofLists words clues).map fun clues => ⟨title, words, clues⟩

end PuzzleInput

end Crossword
