import CredentialCheck.Number.Layout
import CredentialCheck.Template.Spec

/-!
# Values in a layout

How a text, an integer, a truth value and a double are shown under a `Spec`. Other values have no
layout of their own and are shown as they are.

* `padded` fills a text up to a width.
* `grouped` sets separators between groups of digits, with zeros in front up to a width.
* `formatText`, `formatInteger` and `formatFloat` show a value of one sort, `format` any value.
-/

namespace CredentialCheck.Template

/-! ## Filling up -/

/-- A text in a field of the width, if it leaves room there. -/
def padded (fill : Char) (align : Align) (width : Nat) (s : List Char) : List Char :=
  let room := width - s.length
  match align with
  | .left => s ++ List.replicate room fill
  | .centre => List.replicate (room / 2) fill ++ s ++ List.replicate (room - room / 2) fill
  | .right | .inner => List.replicate room fill ++ s

/-- Groups of digits, of which the lowest comes first in the argument and last in the result, with
zeros so that the result is at least `least` long. `size` is the size of a group, and `fuel`
exceeds the number of groups. -/
def groupedFrom (separator : Char) (size : Nat) :
    (fuel : Nat) → (least : Nat) → List Char → List Char
  | 0, _, _ => []
  | fuel + 1, least, lowest =>
    let length := min size (max (max lowest.length least) 1)
    let group := padZeros length (lowest.take length)
    let rest := lowest.drop length
    let least := least - length
    if rest.isEmpty ∧ least = 0 then group.reverse
    else groupedFrom separator size fuel (least - 1) rest ++ separator :: group.reverse

/-- Digits in groups of `size`, and at least `least` characters in all. -/
def grouped (separator : Option Char) (size least : Nat) (digits : List Char) : List Char :=
  match separator with
  | none => List.replicate (least - digits.length) '0' ++ digits
  | some mark => groupedFrom mark size (digits.length + least + 1) least digits.reverse

/-- A number taken apart for its layout. -/
structure Numeral where
  negative : Bool
  /-- The mark of the base. -/
  baseMark : List Char
  /-- The digits that may be grouped. -/
  digits : List Char
  /-- What follows them. -/
  tail : List Char

/-- The sign that is shown. -/
def signText (rule : Option SignRule) (negative : Bool) : List Char :=
  if negative then ['-']
  else
    match rule with
    | some .always => ['+']
    | some .space => [' ']
    | _ => []

/-- A number in its layout. Zeros that fill the width count as digits and are grouped with them. -/
def Numeral.layOut (n : Numeral) (spec : Spec) (groupSize : Nat) : List Char :=
  let sign := signText spec.sign n.negative ++ n.baseMark
  let width := spec.width.getD 0
  let least :=
    if spec.fill = '0' ∧ spec.align = .inner then width - (sign.length + n.tail.length) else 0
  let digits := if n.digits.isEmpty then [] else grouped spec.separator groupSize least n.digits
  let body := digits ++ n.tail
  match spec.align with
  | .inner => sign ++ List.replicate (width - (sign.length + body.length)) spec.fill ++ body
  | align => padded spec.fill align width (sign ++ body)

/-- The least width for which there is no memory. -/
def widthBound : Nat := 1099511627776

/-- Whether the layout asks for too great a width. -/
def Spec.isTooWide (spec : Spec) : Bool := spec.width.any (widthBound ≤ ·)

/-- A number in its layout, unless that is too wide. -/
def Numeral.fit (n : Numeral) (spec : Spec) (groupSize : Nat) : Except Fault (List Char) :=
  if spec.isTooWide then .error .tooWide else .ok (n.layOut spec groupSize)

/-! ## Texts -/

/-- A text under a layout. -/
def formatText (spec : Spec) (s : List Char) : Except Fault (List Char) := do
  match spec.sign with
  | some .space => throw .spaceForText
  | some _ => throw .signForText
  | none => pure ()
  if spec.unsignedZero then throw .zeroSignForText
  if spec.alternate then throw .alternateForText
  if spec.align = .inner then throw .innerAlignForText
  if spec.isTooWide then throw .tooWide
  let shown := match spec.precision with
    | some n => s.take n
    | none => s
  return padded spec.fill spec.align (spec.width.getD 0) shown

/-! ## Integers -/

/-- The character with a number, if there is one. -/
def characterOf (n : Int) : Except Fault Char :=
  if n < -(Value.wordBound : Int) ∨ Value.wordBound ≤ n then .error .characterTooLarge
  else if n < 0 ∨ 0x10FFFF < n then .error .characterOutOfRange
  else .ok (Char.ofNat n.toNat)

/-- An integer under a layout, in the type `type`, which is one of those for integers. A decimal
presentation must not have too many digits. -/
def formatInteger (spec : Spec) (type : Char) (n : Int) : Except Fault (List Char) := do
  if spec.precision.isSome then throw .precisionForInteger
  if spec.unsignedZero then throw .zeroSignForInteger
  let digits (base : Nat) : List Char := Nat.toDigits base n.natAbs
  let mark (letter : Char) : List Char := if spec.alternate then ['0', letter] else []
  let numeral (baseMark digits : List Char) : Numeral := ⟨n < 0, baseMark, digits, []⟩
  match type with
  | 'c' =>
    if spec.sign.isSome then throw .signForCharacter
    if spec.alternate then throw .alternateForCharacter
    let c ← characterOf n
    (Numeral.mk false [] [] [c]).fit spec 3
  | 'b' => (numeral (mark 'b') (digits 2)).fit spec 4
  | 'o' => (numeral (mark 'o') (digits 8)).fit spec 4
  | 'x' => (numeral (mark 'x') (digits 16)).fit spec 4
  | 'X' => (numeral (mark 'X') ((digits 16).map Char.toUpper)).fit spec 4
  | _ =>
    if Value.hasTooManyDigits n then throw .tooManyDigits
    (numeral [] (digits 10)).fit spec 3

/-! ## Doubles -/

/-- A finite double of `units` units in a type of presentation, without its sign. -/
def magnitude (type : Option Char) (precision : Option Nat) (alternate : Bool) (units : Nat) :
    Layout :=
  match type with
  | some 'e' | some 'E' =>
    let places := precision.getD 6
    (Decimal.significant units (places + 1)).scientific places
  | some 'f' | some 'F' | some '%' =>
    let places := precision.getD 6
    let digits := Nat.toDigits 10 (Decimal.fixed units places)
    let whole := digits.take (digits.length - places)
    let shown := List.replicate (places - digits.length) '0' ++ digits.drop (digits.length - places)
    ⟨if whole.isEmpty then ['0'] else whole, shown, none⟩
  | none =>
    match precision with
    | none => (Decimal.shortest units).plain
    | some n => general (max n 1) true units
  | _ => general (max (precision.getD 6) 1) false units
where
  /-- So many leading digits, positional unless the exponent is too small or too large for them.
  With `dotted` there is always a place behind the point. -/
  general (count : Nat) (dotted : Bool) (units : Nat) : Layout :=
    let d := Decimal.significant units count
    let limit : Int := if dotted then (count : Int) - 1 else count
    if d.point ≤ -4 ∨ limit < d.point then
      d.scientific (if alternate then count - 1 else 0)
    else
      let places := if alternate then (count - d.point).toNat else 0
      d.positional (if dotted then max places 1 else places)

/-- Whether all digits are zeros. -/
def showsZero (l : Layout) : Bool := (l.whole ++ l.fraction).all (· == '0')

/-- A double under a layout. -/
def formatFloat (spec : Spec) (type : Option Char) (x : Binary64) : List Char :=
  let capital := [some 'E', some 'F', some 'G'].contains type
  let x := if type = some '%' then x.timesHundred else x
  let percent : List Char := if type = some '%' then ['%'] else []
  let word (negative : Bool) (s : String) : Numeral :=
    ⟨negative, [], [], (if capital then s.toList.map Char.toUpper else s.toList) ++ percent⟩
  let numeral := match x with
    | .nan => word false "nan"
    | .infinite negative => word negative "inf"
    | .finite negative units =>
      let l := magnitude type spec.precision spec.alternate units
      let negative := negative && !(spec.unsignedZero && showsZero l)
      ⟨negative, [], l.whole, l.tail (if capital then 'E' else 'e') spec.alternate ++ percent⟩
  numeral.layOut spec 3

/-- The greatest number of places or digits of a double. -/
def maxPrecision : Nat := 2147483647

/-- A double under a layout, unless that asks for too many digits or too great a width. -/
def formatDouble (spec : Spec) (type : Option Char) (x : Binary64) : Except Fault (List Char) :=
  if spec.precision.any (maxPrecision < ·) then .error .precisionTooLarge
  else if spec.isTooWide then .error .tooWide
  else .ok (formatFloat spec type x)

/-! ## Values -/

/-- An integer under a layout of any type for numbers. A truth value is an integer here. -/
def formatNumber (text : List Char) (kind : Kind) (n : Int) : Except Fault (List Char) := do
  let spec ← Spec.read text kind .right (some 'd')
  match spec.type with
  | some t =>
    if "bcdoxXn".toList.contains t then formatInteger spec t n
    else if "eEfFgG%".toList.contains t then
      match Binary64.ofInt? n with
      | some x => formatDouble spec (some t) x
      | none => throw .integerTooLargeForFloat
    else throw (.unknownType t kind)
  | none => formatInteger spec 'd' n

/-- A value as text, by a way of showing it. -/
def shown (v : Value) (text : Value → String) : Except Fault String :=
  if v.isShowable then .ok (text v) else .error .tooManyDigits

/-- A value under a layout. -/
def format (v : Value) (text : List Char) : Except Fault (List Char) :=
  if text.isEmpty then (shown v Value.display).map String.toList
  else
    match v with
    | .string s => do
      let spec ← Spec.read text .string .left (some 's')
      match spec.type with
      | some 's' => formatText spec s.toList
      | some t => throw (.unknownType t .string)
      | none => formatText spec s.toList
    | .integer n => formatNumber text .integer n
    | .bool b => formatNumber text .bool (Value.ofBool b)
    | .float x => do
      let spec ← Spec.read text .float .right none
      match spec.type with
      | none | some '\x00' => formatDouble spec none x
      | some t =>
        if "eEfFgGn%".toList.contains t then
          formatDouble spec (if t = 'n' then some 'g' else some t) x
        else throw (.unknownType t .float)
    | v => throw (.noLayout (.ofValue v))

end CredentialCheck.Template
