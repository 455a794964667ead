import Crossword.Text.Span

/-!
# White space

The characters with the Unicode property White_Space, and trimming a text of them on both sides.
-/

namespace Crossword.Text

/-- Property White_Space. -/
def blankSpans : List Span :=
  [⟨0x9, 0xD⟩, ⟨0x20, 0x20⟩, ⟨0x85, 0x85⟩, ⟨0xA0, 0xA0⟩, ⟨0x1680, 0x1680⟩, ⟨0x2000, 0x200A⟩,
    ⟨0x2028, 0x2029⟩, ⟨0x202F, 0x202F⟩, ⟨0x205F, 0x205F⟩, ⟨0x3000, 0x3000⟩]

/-- Holds of white space. -/
def isBlank (c : Char) : Bool := inSpans c.toNat blankSpans

/-- Drops the white space at both ends. -/
def trim (cs : List Char) : List Char :=
  ((cs.dropWhile isBlank).reverse.dropWhile isBlank).reverse

end Crossword.Text
