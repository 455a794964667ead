/-!
# Spans of characters

A class of characters is given by a list of spans of their numbers, in rising order.
-/

namespace Crossword.Text

/-- The characters from one number to another, both included. -/
structure Span where
  first : Nat
  last : Nat

/-- Looks a number up in spans of rising order. -/
def inSpans (n : Nat) : List Span → Bool
  | [] => false
  | s :: rest => s.first ≤ n && (n ≤ s.last || inSpans n rest)

end Crossword.Text
