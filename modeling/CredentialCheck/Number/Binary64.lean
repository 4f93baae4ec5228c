/-!
# Double precision numbers

A finite double is a sign and a whole number of *units* of `2 ^ -1074`, the least positive double;
so every finite double is held exactly, and arithmetic on it is arithmetic on natural numbers. A
quotient becomes a double by rounding to the nearest one, a half to the one whose last bit is
zero; what rounds to `2 ^ 1024` or more is infinite.

* `ofRatio`, `ofDecimal` and `ofInt?` round a quotient, a decimal number and an integer.
* `equal` compares as numbers: zero has no sign there, and a NaN differs from everything.
* `equalInt` compares with an integer exactly, with no rounding of the integer.
-/

namespace CredentialCheck

/-- A double precision number. -/
inductive Binary64
  | nan
  | infinite (negative : Bool)
  | finite (negative : Bool) (units : Nat)
  deriving DecidableEq, Repr, Inhabited

namespace Binary64

/-- The number of units in one. -/
def unitsPerOne : Nat := Nat.pow 2 1074

/-- The number of units in the least power of two that is too large for a finite double. -/
def overflowUnits : Nat := Nat.pow 2 2098

/-- The distance from a double of `units` units to the next one above: a double has 53 bits. -/
def spacing (units : Nat) : Nat := Nat.pow 2 (units.log2 - 52)

/-- The whole number nearest to a quotient, a half going to the even neighbour. -/
def roundHalfEven (num den : Nat) : Nat :=
  let q := num / den
  let r := num % den
  if 2 * r < den then q
  else if den < 2 * r then q + 1
  else if q % 2 = 0 then q else q + 1

/-- The double nearest to `num / den`, with a sign. -/
def ofRatio (negative : Bool) (num den : Nat) : Binary64 :=
  let scaled := num * unitsPerOne
  let step := spacing (scaled / den)
  let units := roundHalfEven scaled (den * step) * step
  if units < overflowUnits then .finite negative units else .infinite negative

/-- The double nearest to `digits * 10 ^ exponent`. An exponent so large or so small that the
result must be infinite or zero is not expanded. -/
def ofDecimal (negative : Bool) (digits : Nat) (exponent : Int) : Binary64 :=
  if digits = 0 then .finite negative 0
  else if 400 < exponent then .infinite negative
  else if exponent < -400 - (digits.log2 : Int) then .finite negative 0
  else if 0 ≤ exponent then ofRatio negative (digits * Nat.pow 10 exponent.toNat) 1
  else ofRatio negative digits (Nat.pow 10 (-exponent).toNat)

/-- The double nearest to an integer, if that is finite. -/
def ofInt? (n : Int) : Option Binary64 :=
  match ofRatio (n < 0) n.natAbs 1 with
  | .finite negative units => some (.finite negative units)
  | _ => none

/-- Whether the number is a zero of either sign. -/
def isZero : Binary64 → Bool
  | .finite _ units => units == 0
  | _ => false

/-- A hundred times the number, rounded. -/
def timesHundred : Binary64 → Binary64
  | .finite negative units => ofRatio negative (units * 100) unitsPerOne
  | x => x

/-- Equality as numbers. -/
def equal : Binary64 → Binary64 → Bool
  | .infinite s, .infinite t => s == t
  | .finite s m, .finite t n => m == n && (m == 0 || s == t)
  | _, _ => false

/-- Equality with an integer. -/
def equalInt : Binary64 → Int → Bool
  | .finite s m, n => m == n.natAbs * unitsPerOne && (m == 0 || s == decide (n < 0))
  | _, _ => false

end Binary64

end CredentialCheck
