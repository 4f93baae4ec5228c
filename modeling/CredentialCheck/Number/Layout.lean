import CredentialCheck.Number.Digits

/-!
# The layout of a decimal number

Where the point goes, which zeros are written, and when a number takes an exponent.

* `Decimal.positional` and `Decimal.scientific` lay out the digits.
* `Binary64.text` is the form in which a double is written without further instructions.
-/

namespace CredentialCheck

/-- A number laid out: the digits before the point, those after it, and the exponent. -/
structure Layout where
  whole : List Char
  fraction : List Char
  exponent : Option Int
  deriving DecidableEq, Repr

/-- Digits with zeros behind them up to a width. -/
def padZeros (width : Nat) (digits : List Char) : List Char :=
  digits ++ List.replicate (width - digits.length) '0'

/-- The decimal in positional form with at least `places` places after the point. -/
def Decimal.positional (d : Decimal) (places : Nat) : Layout :=
  if d.point ≤ 0 then
    ⟨['0'], padZeros places (List.replicate (-d.point).toNat '0' ++ d.digits), none⟩
  else
    let n := d.point.toNat
    ⟨padZeros n (d.digits.take n), padZeros places (d.digits.drop n), none⟩

/-- The decimal with one digit before the point and at least `places` after it. -/
def Decimal.scientific (d : Decimal) (places : Nat) : Layout :=
  ⟨d.digits.take 1, padZeros places (d.digits.drop 1), some (d.point - 1)⟩

/-- An exponent: the letter, a sign, and at least two digits. -/
def exponentText (mark : Char) (e : Int) : List Char :=
  let digits := Nat.toDigits 10 e.natAbs
  mark :: (if e < 0 then '-' else '+') :: List.replicate (2 - digits.length) '0' ++ digits

/-- What stands behind the whole digits. The point is left out in front of nothing, unless
`keepPoint`. -/
def Layout.tail (l : Layout) (mark : Char) (keepPoint : Bool) : List Char :=
  (if l.fraction.isEmpty && !keepPoint then [] else '.' :: l.fraction) ++
    (match l.exponent with
      | none => []
      | some e => exponentText mark e)

/-- The number as text. -/
def Layout.text (l : Layout) (mark : Char) (keepPoint : Bool) : List Char :=
  l.whole ++ l.tail mark keepPoint

/-- The fewest digits that read back: positional from 0.0001 up to below 10 ^ 16, with one place
at least, and with an exponent outside that range. -/
def Decimal.plain (d : Decimal) : Layout :=
  if d.point ≤ -4 ∨ 16 < d.point then d.scientific 0 else d.positional 1

/-- A double in its plain form. -/
def Binary64.text : Binary64 → String
  | .nan => "nan"
  | .infinite negative => if negative then "-inf" else "inf"
  | .finite negative units =>
    let body := (Decimal.shortest units).plain.text 'e' false
    String.ofList (if negative then '-' :: body else body)

end CredentialCheck
