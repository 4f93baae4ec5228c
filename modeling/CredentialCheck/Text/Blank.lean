import CredentialCheck.Text.CodeRange

/-!
# White space around a text

The 29 characters that Unicode counts as white space or that separate records (U+001C to U+001F),
and the removal of a run of them at both ends of a text.
-/

namespace CredentialCheck.Text

/-- The ranges of white space. -/
def blankRanges : List CodeRange := [
  ⟨0x9, 0xD⟩, ⟨0x1C, 0x20⟩, ⟨0x85, 0x85⟩, ⟨0xA0, 0xA0⟩, ⟨0x1680, 0x1680⟩, ⟨0x2000, 0x200A⟩,
  ⟨0x2028, 0x2029⟩, ⟨0x202F, 0x202F⟩, ⟨0x205F, 0x205F⟩, ⟨0x3000, 0x3000⟩]

/-- Whether the character is white space. -/
def isBlank (c : Char) : Bool := CodeRange.covers blankRanges c

/-- The text without the white space at its two ends. -/
def trim (s : List Char) : List Char :=
  ((s.dropWhile isBlank).reverse.dropWhile isBlank).reverse

end CredentialCheck.Text
