/-!
# UTF-8

A text as bytes. `encode` writes each character in one to four bytes, and `decode` reads them
back, or says where the first sequence of bytes stands that no character has, which bytes it
comprises and what is wrong with it.

The reader goes byte by byte. Between characters it looks at the first byte of the next one, which
says how many bytes follow and what the second may be (this excludes spellings that are too long
and the surrogate code points); inside a character it takes one continuation byte at a time.
-/

namespace CredentialCheck.Text.Utf8

/-- The bytes of a character. -/
def encodeChar (c : Char) : List UInt8 :=
  let n := c.toNat
  if n < 0x80 then [UInt8.ofNat n]
  else if n < 0x800 then [UInt8.ofNat (0xC0 + n / 0x40), UInt8.ofNat (0x80 + n % 0x40)]
  else if n < 0x10000 then
    [UInt8.ofNat (0xE0 + n / 0x1000), UInt8.ofNat (0x80 + n / 0x40 % 0x40),
      UInt8.ofNat (0x80 + n % 0x40)]
  else
    [UInt8.ofNat (0xF0 + n / 0x40000), UInt8.ofNat (0x80 + n / 0x1000 % 0x40),
      UInt8.ofNat (0x80 + n / 0x40 % 0x40), UInt8.ofNat (0x80 + n % 0x40)]

/-- The bytes of a text. -/
def encode (s : List Char) : List UInt8 := s.flatMap encodeChar

/-- What is wrong with a sequence of bytes. -/
inductive Reason
  /-- No character begins with its first byte. -/
  | invalidStart
  /-- The byte after it does not continue the character. -/
  | invalidContinuation
  /-- The bytes end before the character does. -/
  | unexpectedEnd
  deriving DecidableEq, Repr

/-- The first sequence of bytes that is not the beginning of a character. -/
structure Fault where
  reason : Reason
  /-- The number of bytes in front of the sequence. -/
  offset : Nat
  /-- The bytes of the sequence: a first byte and the continuation bytes that were accepted. -/
  bytes : List UInt8
  deriving DecidableEq, Repr

/-- The reason in words. -/
def Reason.message : Reason → String
  | .invalidStart => "invalid start byte"
  | .invalidContinuation => "invalid continuation byte"
  | .unexpectedEnd => "unexpected end of data"

/-- A character of which some bytes have been read. -/
structure Pending where
  /-- The bytes read so far. -/
  bytes : List UInt8
  /-- The number that their payload bits make up. -/
  value : Nat
  /-- The number of bytes still to come. -/
  owed : Nat
  /-- The least value of the next byte. -/
  low : Nat
  /-- The greatest value of the next byte. -/
  high : Nat

/-- What the first byte of a character announces. A byte of ASCII is a whole character, with no
bytes owed. -/
def Pending.start? (b : UInt8) : Option Pending :=
  let n := b.toNat
  if n < 0x80 then some ⟨[b], n, 0, 0x80, 0xBF⟩
  else if n < 0xC2 then none
  else if n < 0xE0 then some ⟨[b], n - 0xC0, 1, 0x80, 0xBF⟩
  else if n = 0xE0 then some ⟨[b], 0, 2, 0xA0, 0xBF⟩
  else if n = 0xED then some ⟨[b], 0xD, 2, 0x80, 0x9F⟩
  else if n < 0xF0 then some ⟨[b], n - 0xE0, 2, 0x80, 0xBF⟩
  else if n = 0xF0 then some ⟨[b], 0, 3, 0x90, 0xBF⟩
  else if n < 0xF4 then some ⟨[b], n - 0xF0, 3, 0x80, 0xBF⟩
  else if n = 0xF4 then some ⟨[b], 4, 3, 0x80, 0x8F⟩
  else none

/-- The character after one more byte, if the byte may follow. -/
def Pending.next? (p : Pending) (b : UInt8) : Option Pending :=
  if p.low ≤ b.toNat ∧ b.toNat ≤ p.high then
    some ⟨p.bytes ++ [b], p.value * 0x40 + (b.toNat - 0x80), p.owed - 1, 0x80, 0xBF⟩
  else none

/-- Reads on from a place between characters (`none`) or inside one, `offset` bytes after the
beginning of the text (of the character, inside one). -/
def decodeFrom (offset : Nat) : Option Pending → List UInt8 → Except Fault (List Char)
  | none, [] => .ok []
  | some p, [] => .error ⟨.unexpectedEnd, offset, p.bytes⟩
  | none, b :: bs =>
    match Pending.start? b with
    | none => .error ⟨.invalidStart, offset, [b]⟩
    | some p =>
      if p.owed = 0 then (decodeFrom (offset + 1) none bs).map (Char.ofNat p.value :: ·)
      else decodeFrom offset (some p) bs
  | some p, b :: bs =>
    match p.next? b with
    | none => .error ⟨.invalidContinuation, offset, p.bytes⟩
    | some p' =>
      if p'.owed = 0 then
        (decodeFrom (offset + p'.bytes.length) none bs).map (Char.ofNat p'.value :: ·)
      else decodeFrom offset (some p') bs

/-- The text that the bytes spell. -/
def decode (bs : List UInt8) : Except Fault (List Char) := decodeFrom 0 none bs

/-- The text that the bytes spell, if they are UTF-8. -/
def decode? (bs : List UInt8) : Option (List Char) := (decode bs).toOption

end CredentialCheck.Text.Utf8
