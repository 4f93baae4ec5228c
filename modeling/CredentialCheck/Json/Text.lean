import CredentialCheck.Json.Number
import CredentialCheck.Text.Hex
import CredentialCheck.Text.Utf8

/-!
# Strings in JSON texts

A string is read in two steps. First its bytes up to the closing quotation mark are gathered, with
each escape replaced by the bytes of the character that it stands for; a character beyond U+FFFF
may be written as two escapes, a surrogate pair. Then the bytes gathered have to be UTF-8, so any
other fault in a string comes to light first.
-/

namespace CredentialCheck.Json

open Text

/-- The number that hexadecimal digits spell; the fault is at the first byte that is no digit.
`behind` is the number of bytes behind the digits. -/
def hexNumber (behind : Nat) : (soFar : Nat) → List UInt8 → Except Fault Nat
  | n, [] => .ok n
  | n, b :: bs =>
    match hexValue? (Char.ofNat b.toNat) with
    | some d => hexNumber behind (n * 16 + d) bs
    | none => .error ⟨.invalidEscape, bs.length + 1 + behind⟩

/-- The four digits of an escape. They must all be there before any is looked at. -/
def readHex4 : Reader Nat
  | a :: b :: c :: d :: bs => (hexNumber bs.length 0 [a, b, c, d]).map (·, bs)
  | _ => .error ⟨.endInString, 0⟩

/-- Whether the number is in the first half of the surrogates. -/
def isHighSurrogate (n : Nat) : Bool := 0xD800 ≤ n && n < 0xDC00

/-- Whether the number is in the second half of the surrogates. -/
def isLowSurrogate (n : Nat) : Bool := 0xDC00 ≤ n && n < 0xE000

/-- The code point that a surrogate pair stands for. -/
def pairValue (high low : Nat) : Nat := 0x10000 + (high - 0xD800) * 0x400 + (low - 0xDC00)

/-- The second escape of a surrogate pair. -/
def readLowSurrogate (high : Nat) : Reader Char
  | 0x5C :: 0x75 :: bs =>
    match readHex4 bs with
    | .error f => .error f
    | .ok (low, bs) =>
      if isLowSurrogate low then .ok (Char.ofNat (pairValue high low), bs)
      else .error ⟨.loneSurrogate, bs.length + 1⟩
  | 0x5C :: b :: bs => .error ⟨.unexpectedEndOfEscape, (b :: bs).length⟩
  | [0x5C] => .error ⟨.endInString, 0⟩
  | [] => .error ⟨.endInString, 0⟩
  | b :: bs => .error ⟨.unexpectedEndOfEscape, (b :: bs).length⟩

/-- The character of a numbered escape, from behind the letter `u`. -/
def readNumbered : Reader Char := fun bs =>
  match readHex4 bs with
  | .error f => .error f
  | .ok (n, bs) =>
    if isLowSurrogate n then .error ⟨.loneSurrogate, bs.length + 1⟩
    else if isHighSurrogate n then readLowSurrogate n bs
    else .ok (Char.ofNat n, bs)

/-- The character of an escape, from behind the backslash. -/
def readEscape : Reader Char
  | [] => .error ⟨.endInString, 0⟩
  | 0x75 :: bs => readNumbered bs
  | b :: bs =>
    match b with
    | 0x22 => .ok ('"', bs)
    | 0x5C => .ok ('\\', bs)
    | 0x2F => .ok ('/', bs)
    | 0x62 => .ok ('\x08', bs)
    | 0x66 => .ok ('\x0C', bs)
    | 0x6E => .ok ('\n', bs)
    | 0x72 => .ok ('\r', bs)
    | 0x74 => .ok ('\t', bs)
    | _ => .error ⟨.invalidEscape, bs.length + 1⟩

/-- The bytes of a string up to its closing mark, with the escapes replaced. Each step takes up a
byte at least, so with `fuel` for every byte it only runs out at the end of the text. -/
def gather : (fuel : Nat) → Reader (List UInt8)
  | 0, _ => .error ⟨.endInString, 0⟩
  | _, [] => .error ⟨.endInString, 0⟩
  | fuel + 1, b :: bs =>
    if b = 0x22 then .ok ([], bs)
    else if b = 0x5C then
      match readEscape bs with
      | .error f => .error f
      | .ok (c, bs) =>
        match gather fuel bs with
        | .error f => .error f
        | .ok (more, bs) => .ok (Utf8.encodeChar c ++ more, bs)
    else if b < 0x20 then .error ⟨.controlCharacter, bs.length + 1⟩
    else
      match gather fuel bs with
      | .error f => .error f
      | .ok (more, bs) => .ok (b :: more, bs)

/-- A string, from behind its opening mark. -/
def readString : Reader String := fun bs =>
  match gather bs.length bs with
  | .error f => .error f
  | .ok (gathered, rest) =>
    match Utf8.decode gathered with
    | .ok s => .ok (String.ofList s, rest)
    | .error fault => .error ⟨.invalidCodePoint, bs.length - fault.offset⟩

end CredentialCheck.Json
