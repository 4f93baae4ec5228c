import CredentialCheck.Json.Fault
import CredentialCheck.Value.Basic

/-!
# Words and numbers in JSON texts

The known words are `null`, `true` and `false`, and the numbers `NaN`, `Infinity` and `-Infinity`.
A number without a fraction and an exponent is an integer of any size, up to a limit on its
digits; any other is the nearest double.
-/

namespace CredentialCheck.Json

/-- A part of a text is read off its front: the result and the bytes behind it. -/
abbrev Reader (α : Type) := List UInt8 → Except Fault (α × List UInt8)

/-- Whether the byte is white space. -/
def isBlank (b : UInt8) : Bool := b == 0x20 || b == 0x09 || b == 0x0A || b == 0x0D

/-- The text behind the white space at its beginning. -/
def skipBlank (bs : List UInt8) : List UInt8 := bs.dropWhile isBlank

/-- Whether the byte is a digit. -/
def isDigit (b : UInt8) : Bool := 0x30 ≤ b && b ≤ 0x39

/-- The text behind a word, of which the first byte has been read already. -/
def readWord : (word : List Char) → List UInt8 → Except Fault (List UInt8)
  | [], bs => .ok bs
  | _ :: _, [] => .error ⟨.endInValue, 0⟩
  | c :: word, b :: bs =>
    if b.toNat = c.toNat then readWord word bs else .error ⟨.expectedWord, bs.length + 1⟩

/-- The number that digits spell, read on from `n`. -/
def digitsFrom (n : Nat) (digits : List UInt8) : Nat :=
  digits.foldl (fun n d => n * 10 + (d.toNat - 0x30)) n

/-- One digit at least, and all that follow. -/
def readDigits : Reader (List UInt8)
  | [] => .error ⟨.endInValue, 0⟩
  | b :: bs =>
    if isDigit b then .ok (b :: bs.takeWhile isDigit, bs.dropWhile isDigit)
    else .error ⟨.invalidNumber, bs.length + 1⟩

/-- The digits of a fraction, if there is a point. -/
def readFraction : Reader (Option (List UInt8))
  | 0x2E :: bs => (readDigits bs).map fun (digits, bs) => (some digits, bs)
  | bs => .ok (none, bs)

/-- An exponent, if there is one. -/
def readExponent : Reader (Option Int)
  | [] => .ok (none, [])
  | b :: bs =>
    if b = 0x65 ∨ b = 0x45 then
      match bs with
      | 0x2D :: bs => (readDigits bs).map fun (digits, bs) => (some (-digitsFrom 0 digits), bs)
      | 0x2B :: bs => (readDigits bs).map fun (digits, bs) => (some (digitsFrom 0 digits), bs)
      | bs => (readDigits bs).map fun (digits, bs) => (some (digitsFrom 0 digits), bs)
    else .ok (none, b :: bs)

/-- The digits in front of the point: a zero alone, or digits of which the first is none. -/
def readWhole (maxDigits : Nat) : Reader (List UInt8)
  | [] => .error ⟨.endInValue, 0⟩
  | b :: bs =>
    if b = 0x30 then
      match bs with
      | c :: _ => if isDigit c then .error ⟨.invalidNumber, bs.length⟩ else .ok ([b], bs)
      | [] => .ok ([b], [])
    else if isDigit b then
      let digits := b :: bs.takeWhile isDigit
      if maxDigits < digits.length then .error ⟨.numberOutOfRange, bs.length - maxDigits⟩
      else .ok (digits, bs.dropWhile isDigit)
    else .error ⟨.invalidNumber, bs.length + 1⟩

/-- A number without its sign. -/
def readMagnitude (maxDigits : Nat) (negative : Bool) : Reader Value := fun bs =>
  match readWhole maxDigits bs with
  | .error f => .error f
  | .ok (whole, bs) =>
    match readFraction bs with
    | .error f => .error f
    | .ok (fraction, bs) =>
      match readExponent bs with
      | .error f => .error f
      | .ok (exponent, bs) =>
        if fraction.isNone ∧ exponent.isNone then
          let n := digitsFrom 0 whole
          .ok (.integer (if negative then -(n : Int) else n), bs)
        else
          let places := fraction.getD []
          let digits := digitsFrom (digitsFrom 0 whole) places
          .ok (.float (.ofDecimal negative digits (exponent.getD 0 - places.length)), bs)

/-- A number from its sign or first digit on. -/
def readNumber (maxDigits : Nat) : Reader Value
  | 0x2D :: 0x49 :: bs =>
    (readWord "nfinity".toList bs).map fun bs => (.float (.infinite true), bs)
  | 0x2D :: bs => readMagnitude maxDigits true bs
  | bs => readMagnitude maxDigits false bs

end CredentialCheck.Json
