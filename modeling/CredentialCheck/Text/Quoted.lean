import CredentialCheck.Text.Hex
import CredentialCheck.Text.Unprintable

/-!
# Quoted texts

A text between quotation marks, with escapes for what cannot stand there: the mark itself, the
backslash, and every character that does not print. The mark is the apostrophe, unless the text
holds an apostrophe and no double quotation mark. The escape of an unprintable character has two,
four or eight hexadecimal digits, as its code point needs.

* `quoted` shows printable characters of every script as they are.
* `quotedAscii` shows only ASCII characters as they are.
* `quotedBytes` shows a sequence of bytes in the same manner, marked by a `b` in front;
  `quotedByteArray` does so too, but escapes every apostrophe.
-/

namespace CredentialCheck.Text

/-- The mark that a text stands between. -/
def quotationMark (s : List Char) : Char :=
  if '\'' ∈ s ∧ '"' ∉ s then '"' else '\''

/-- The numbered escape of a character, as short as its code point allows. -/
def numberedEscape (c : Char) : List Char :=
  if c.toNat < 0x100 then '\\' :: 'x' :: fixedHex 2 c.toNat
  else if c.toNat < 0x10000 then '\\' :: 'u' :: fixedHex 4 c.toNat
  else '\\' :: 'U' :: fixedHex 8 c.toNat

/-- One character between marks, where `guarded` says which characters are marks, and `shown` which
stand for themselves. -/
def escape (shown guarded : Char → Bool) (c : Char) : List Char :=
  if guarded c ∨ c = '\\' then ['\\', c]
  else if c = '\t' then ['\\', 't']
  else if c = '\n' then ['\\', 'n']
  else if c = '\r' then ['\\', 'r']
  else if shown c then [c]
  else numberedEscape c

/-- A text between marks, where `shown` says which characters stand for themselves. -/
def quotedBy (shown : Char → Bool) (s : List Char) : List Char :=
  let mark := quotationMark s
  mark :: s.flatMap (escape shown (· == mark)) ++ [mark]

/-- Whether the character is a printable one of ASCII. -/
def isPrintableAscii (c : Char) : Bool := 0x20 ≤ c.toNat && c.toNat < 0x7F

/-- A text between marks, with every printable character as it is. -/
def quoted (s : String) : String := String.ofList (quotedBy isPrintable s.toList)

/-- A text between marks, written in ASCII. -/
def quotedAscii (s : String) : String := String.ofList (quotedBy isPrintableAscii s.toList)

/-- Bytes between marks; each byte is shown as the character of its number. -/
def quotedBytes (bs : List UInt8) : String :=
  String.ofList ('b' :: quotedBy isPrintableAscii (bs.map fun b => Char.ofNat b.toNat))

/-- The same with every apostrophe escaped, whatever the mark. -/
def quotedByteArray (bs : List UInt8) : String :=
  let s := bs.map fun b => Char.ofNat b.toNat
  let mark := quotationMark s
  String.ofList
    ('b' :: mark :: s.flatMap (escape isPrintableAscii fun c => c == mark || c == '\'') ++ [mark])

end CredentialCheck.Text
