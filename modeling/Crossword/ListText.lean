import Crossword.Text.Blank
import Crossword.Text.Lines

/-!
# List texts

A list is written with one entry per line. White space around an entry and lines without an entry do
not count, and a line of three dots ends the list; what follows belongs to another one.
-/

namespace Crossword

namespace ListText

/-- The line that ends a list. -/
def terminator : String := "..."

/-- The entries among trimmed lines, up to the line that ends the list. -/
def entries (lines : List (List Char)) : List (List Char) :=
  (lines.takeWhile fun line => line ≠ terminator.toList).filter fun line => line ≠ []

/-- The entries of a text. -/
def parse (text : String) : List String :=
  (entries ((Text.lines text.toList).map Text.trim)).map String.ofList

end ListText

end Crossword
