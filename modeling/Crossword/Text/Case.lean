import Crossword.Text.CaseTable

/-!
# Letter case

Upper and lower case of whole texts. A character may become several (`ß` is `SS` in upper case), and
a capital sigma at the end of a word has a lower case of its own. A text in lower case serves as a
key under which words that differ in case only are the same.
-/

namespace Crossword.Text

/-- Moves a character by the shift of the run it belongs to, if any. -/
def shifted (n : Nat) : List CaseShift → Nat
  | [] => n
  | s :: rest =>
    if n < s.first then n
    else if n ≤ s.last then
      if (n - s.first) % s.stride = 0 then (n + s.shift).toNat else n
    else shifted n rest

/-- The other case of a character: an expansion if it has one, else the shifted character. -/
def mapCase (expansions : List (Nat × List Nat)) (shifts : List CaseShift) (c : Char) :
    List Char :=
  match expansions.lookup c.toNat with
  | some letters => letters.map Char.ofNat
  | none => [Char.ofNat (shifted c.toNat shifts)]

/-- The upper case of a character. -/
def upperChar (c : Char) : List Char := mapCase upperExpansions upperShifts c

/-- The lower case of a character by itself. -/
def lowerChar (c : Char) : List Char := mapCase lowerExpansions lowerShifts c

/-- A text in upper case. -/
def upper (s : String) : String := String.ofList (s.toList.flatMap upperChar)

/-- Holds of the characters with a case. -/
def isCased (c : Char) : Bool := inSpans c.toNat casedSpans

/-- Holds of the characters that the search for a cased neighbour passes over. -/
def isCaseIgnorable (c : Char) : Bool := inSpans c.toNat caseIgnorableSpans

/-- Holds if the first character that counts has a case. -/
def meetsCased (cs : List Char) : Bool := (cs.dropWhile isCaseIgnorable).head?.any isCased

/-- The lower case of a capital sigma, by the characters before it, nearest first, and after it: at
the end of a word it is the final one. -/
def lowerSigma (before after : List Char) : Char :=
  if meetsCased before && !meetsCased after then 'ς' else 'σ'

/-- The rest of a text in lower case; the characters before it are given nearest first. -/
def lowerAfter (before : List Char) : List Char → List Char
  | [] => []
  | c :: rest =>
    (if c = 'Σ' then [lowerSigma before rest] else lowerChar c) ++ lowerAfter (c :: before) rest

/-- A text in lower case. -/
def lower (s : String) : String := String.ofList (lowerAfter [] s.toList)

end Crossword.Text
