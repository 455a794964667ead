import Crossword.Text.HiddenTable

/-!
# Quoted text

A text between double quotes, in which line ends, backslashes and the quote itself are escaped and
hidden characters are shown by their number.
-/

namespace Crossword.Text

/-- The number of a character in the sixteen digits. -/
def hex (n : Nat) : List Char := Nat.toDigits 16 n

/-- Holds of the characters that are shown by their number. -/
def isHidden (c : Char) : Bool := inSpans c.toNat hiddenSpans

/-- One character of a quoted text. -/
def quoteChar (c : Char) : List Char :=
  if c = '\x00' then ['\\', '0']
  else if c = '\t' then ['\\', 't']
  else if c = '\r' then ['\\', 'r']
  else if c = '\n' then ['\\', 'n']
  else if c = '\\' || c = '\x22' then ['\\', c]
  else if isHidden c then ['\\', 'u', '\x7b'] ++ hex c.toNat ++ ['\x7d']
  else [c]

/-- A text between quotes. -/
def quoted (s : String) : String :=
  String.ofList (['\x22'] ++ s.toList.flatMap quoteChar ++ ['\x22'])

end Crossword.Text
