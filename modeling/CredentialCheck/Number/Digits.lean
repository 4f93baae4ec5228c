import CredentialCheck.Number.Binary64

/-!
# Decimal digits of a double

Three ways to write the magnitude of a finite double in decimal digits, all computed exactly.

* `shortest` has the fewest digits that read back as the same double, and among those of that
  length is the nearest to it (of two as near, the one with the even last digit).
* `significant` has a given number of leading digits, `fixed` a given number of places after the
  point; both round a half to the even neighbour.
-/

namespace CredentialCheck

/-- The number `0.d₁d₂…dₙ * 10 ^ point`. -/
structure Decimal where
  digits : List Char
  point : Int
  deriving DecidableEq, Repr

namespace Decimal

/-- The number of decimal digits of a number, none for zero. -/
def digitCount (n : Nat) : Nat := if n = 0 then 0 else (Nat.toDigits 10 n).length

/-- The decimal of a zero. -/
def zero : Decimal := ⟨['0'], 1⟩

/-- The digits of `n * 10 ^ (point - places)`, without the zeros at the end. -/
def ofNat (n places : Nat) (point : Int) : Decimal :=
  let digits := Nat.toDigits 10 n
  let kept := (digits.reverse.dropWhile (· == '0')).reverse
  if kept.isEmpty then zero else ⟨kept, point + digits.length - places⟩

/-- The power of ten that is the least one above the double of `units` units, which is not zero. -/
def pointOf (units : Nat) : Int :=
  if Binary64.unitsPerOne ≤ units then digitCount (units / Binary64.unitsPerOne)
  else 1 - (digitCount ((Binary64.unitsPerOne - 1) / units) : Int)

/-- The double times `10 ^ places`, as a quotient. -/
def scaled (units : Nat) (places : Int) : Nat × Nat :=
  (units * Nat.pow 10 places.toNat, Binary64.unitsPerOne * Nat.pow 10 (-places).toNat)

/-- Whether `n / 10 ^ places` reads back as the double of `units` units: it lies between the
middles to the two neighbours, a middle itself counting for the even significand. The distance to
the lower neighbour is halved at a power of two. -/
def readsBack (units : Nat) (places : Int) (n : Nat) : Bool :=
  let above := Binary64.spacing units
  let below := if units = Nat.pow 2 units.log2 ∧ 1 < above then above / 2 else above
  let up := Nat.pow 10 places.toNat
  let shown := 4 * n * (Binary64.unitsPerOne * Nat.pow 10 (-places).toNat)
  let low := (4 * units - 2 * below) * up
  let high := (4 * units + 2 * above) * up
  if units / above % 2 = 0 then low ≤ shown && shown ≤ high else low < shown && shown < high

/-- The nearest of the numbers with `places` digits after the point (before it, if negative) that
reads back. Only the two neighbours on that grid can be the nearest. -/
def nearestReadingBack (units : Nat) (places : Int) : Option Nat :=
  let (num, den) := scaled units places
  let floor := num / den
  match readsBack units places floor, readsBack units places (floor + 1) with
  | true, true => some (Binary64.roundHalfEven num den)
  | true, false => some floor
  | false, true => some (floor + 1)
  | false, false => none

/-- The fewest digits that read back. Seventeen always do. -/
def shortest (units : Nat) : Decimal :=
  if units = 0 then zero
  else
    let point := pointOf units
    let found := (List.range' 1 17).findSome? fun (n : Nat) =>
      (nearestReadingBack units (n - point)).map (ofNat · n point)
    found.getD zero

/-- The double rounded to `places` places after the point: its digits as one number. -/
def fixed (units places : Nat) : Nat :=
  Binary64.roundHalfEven (units * Nat.pow 10 places) Binary64.unitsPerOne

/-- The double rounded to `count` leading digits. -/
def significant (units count : Nat) : Decimal :=
  if units = 0 then zero
  else
    let point := pointOf units
    let (num, den) := scaled units (count - point)
    ofNat (Binary64.roundHalfEven num den) count point

end Decimal

end CredentialCheck
