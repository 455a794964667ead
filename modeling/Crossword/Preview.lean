import Crossword.Clues
import Crossword.Puzzle

/-!
# Previews

A puzzle as plain text: the title if there is one, the grid, and for each direction its words with
the squares at which they begin on the trimmed grid, and their clues.
-/

namespace Crossword

namespace Preview

/-- The line for one word. -/
def wordLine (p : Puzzle) (clues : Clues) (entry : PlacedWord) : String :=
  let start := ((p.relativePlacement? entry.word).bind (·.start?)).getD .origin
  s!"  ({start.row}, {start.col}) {entry.word}: {clues.clueFor entry.word}"

/-- The lines for the words of one direction, none if there are no words. -/
def wordLines (p : Puzzle) (clues : Clues) (o : Orientation) : List String :=
  match p.wordsIn o with
  | [] => []
  | words => ["", o.label] ++ words.map (wordLine p clues)

/-- The lines above the grid. -/
def heading : Option String → List String
  | none => []
  | some title => [title, ""]

end Preview

/-- The text that shows a puzzle. -/
def preview (p : Puzzle) (clues : Clues) (title : Option String) : String :=
  let lines := Preview.heading title ++ [p.grid.toText] ++
    Orientation.all.flatMap (Preview.wordLines p clues)
  "\n".intercalate lines ++ "\n"

end Crossword
