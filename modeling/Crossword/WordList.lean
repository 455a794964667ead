import Crossword.Error
import Crossword.Text.Case

/-!
# Word lists

What is done to a list of words before any is placed: the letter case is settled, the list is
checked against the side of the grid, and the words are put in order, the longest first.
-/

namespace Crossword

/-- What becomes of the letter case of the words. Only equal letters may share a square. -/
inductive CasePolicy where
  | preserve
  | upper
  deriving DecidableEq

namespace CasePolicy

/-- A word under the policy. -/
def apply : CasePolicy → String → String
  | preserve, word => word
  | upper, word => Text.upper word

end CasePolicy

/-- The words under a policy. -/
def prepareWords (policy : CasePolicy) (words : List String) : List String :=
  words.map policy.apply

/-- The words in the order in which they are placed: longer ones first, words of one length in the
given order. -/
def orderWords (words : List String) : List String :=
  words.mergeSort fun v w => w.length ≤ v.length

/-- Reports the first fault of the words after those already seen. -/
def checkWordsAfter (side : Nat) (seen : List String) : List String → Except Error Unit
  | [] => .ok ()
  | word :: rest =>
    if word.length = 0 then
      .error (.invalidInput .emptyWord)
    else if word.length > side then
      .error (.invalidInput (.tooLong word word.length side))
    else if seen.contains word then
      .error (.invalidInput (.repeated word))
    else
      checkWordsAfter side (word :: seen) rest

/-- Reports the first fault of a list of words for a grid of some side. -/
def checkWords (words : List String) (side : Nat) : Except Error Unit :=
  if words.isEmpty then .error (.invalidInput .noWords) else checkWordsAfter side [] words

theorem orderWords_perm (words : List String) : (orderWords words).Perm words :=
  List.mergeSort_perm ..

end Crossword
