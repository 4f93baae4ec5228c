import CredentialCheck.Text.Utf8

/-!
# Excerpts

A text of more than 50 bytes in UTF-8 is cut in the middle when an error shows it: the longest
beginning of whole characters in 25 bytes, three points, and the longest ending in 24 bytes.
-/

namespace CredentialCheck.Text

/-- The longest beginning of whole characters that takes up at most `room` bytes. -/
def takeBytes : (room : Nat) → List Char → List Char
  | _, [] => []
  | room, c :: s =>
    let size := (Utf8.encodeChar c).length
    if size ≤ room then c :: takeBytes (room - size) s else []

/-- The text itself if it is short, its two ends otherwise. -/
def excerpt (s : List Char) : List Char :=
  if (Utf8.encode s).length ≤ 50 then s
  else takeBytes 25 s ++ ['.', '.', '.'] ++ (takeBytes 24 s.reverse).reverse

end CredentialCheck.Text
