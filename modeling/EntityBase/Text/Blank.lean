import EntityBase.CharSet

/-!
# Blanks — the characters that count as white space

The twenty-five characters with the White_Space property: the control
characters from tab to carriage return, the space, and the spaces and line
breaks outside ASCII.
-/

namespace EntityBase.Text

/-- The white space. -/
def blankChars : CharSet :=
  ⟨[⟨9, 13⟩, ⟨0x20, 0x20⟩, ⟨0x85, 0x85⟩, ⟨0xA0, 0xA0⟩, ⟨0x1680, 0x1680⟩, ⟨0x2000, 0x200A⟩,
    ⟨0x2028, 0x2029⟩, ⟨0x202F, 0x202F⟩, ⟨0x205F, 0x205F⟩, ⟨0x3000, 0x3000⟩]⟩

/-- Whether a character is white space. -/
def isBlank (c : Char) : Bool := blankChars.contains c

/-- The text without the blanks in front. -/
def trimStart (s : List Char) : List Char := s.dropWhile isBlank

/-- The text without the blanks at either end. -/
def trim (s : List Char) : List Char := (trimStart (trimStart s).reverse).reverse

end EntityBase.Text
