import FeeOracle.Text.CodeRange

/-!
# Blanks

Blank characters are those with the Unicode property `White_Space`: more than the ASCII blanks, but
neither the zero-width space nor the byte order mark. Trimming removes them from both ends of a
text.
-/

namespace FeeOracle.Text

/-- The characters with the property `White_Space`. -/
def blankRanges : List CodeRange :=
  [⟨0x9, 0xD⟩, ⟨0x20, 0x20⟩, ⟨0x85, 0x85⟩, ⟨0xA0, 0xA0⟩, ⟨0x1680, 0x1680⟩, ⟨0x2000, 0x200A⟩,
   ⟨0x2028, 0x2029⟩, ⟨0x202F, 0x202F⟩, ⟨0x205F, 0x205F⟩, ⟨0x3000, 0x3000⟩]

/-- Is the character blank? -/
def isBlank (c : Char) : Bool := within blankRanges c

/-- The characters without the blanks at the two ends. -/
def trimBlanks (cs : List Char) : List Char :=
  ((cs.dropWhile isBlank).reverse.dropWhile isBlank).reverse

/-- The text without the blanks at its two ends. -/
def trim (text : String) : String := String.ofList (trimBlanks text.toList)

end FeeOracle.Text
