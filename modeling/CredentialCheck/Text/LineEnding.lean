/-!
# Line endings

A text file may end its lines with a line feed, a carriage return, or both. Read as text, every
ending is a line feed.
-/

namespace CredentialCheck.Text

/-- The text with each line ending written as one line feed. -/
def unifyLineEndings : List Char → List Char
  | [] => []
  | '\r' :: '\n' :: s => '\n' :: unifyLineEndings s
  | '\r' :: s => '\n' :: unifyLineEndings s
  | c :: s => c :: unifyLineEndings s

end CredentialCheck.Text
