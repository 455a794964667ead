/-!
# Lines

A text cut at its line ends. There is always one line more than there are line ends.
-/

namespace Crossword.Text

/-- The pieces between line ends. -/
def lines : List Char → List (List Char)
  | [] => [[]]
  | c :: rest =>
    if c = '\n' then
      [] :: lines rest
    else
      match lines rest with
      | [] => [[c]]
      | line :: others => (c :: line) :: others

/-- The pieces of a text between line ends. -/
def linesOf (s : String) : List String := (lines s.toList).map String.ofList

end Crossword.Text
