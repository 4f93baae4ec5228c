import CredentialCheck.Template.Format
import CredentialCheck.Value.Equality

/-!
# Messages of log records

The message of a record may hold places for values, each marked by a per cent sign: flags, a width,
a precision and a letter for the sort of presentation. The values are taken in their order, or by
name from a dictionary. Two per cent signs stand for one. A message without values is taken as it
is.

* `message` is the text of a record, if the values fit the places.
-/

namespace CredentialCheck.Log

open Template

/-! ## Places and values -/

/-- A place for a value. -/
structure Place where
  /-- The name of the value in a dictionary. -/
  name : Option String
  left : Bool
  plus : Bool
  space : Bool
  zero : Bool
  alternate : Bool
  width : Nat
  precision : Option Nat
  letter : Char

/-- Where the values come from. -/
inductive Source
  /-- Values that are left to be taken in their order. -/
  | inOrder (rest : List Value)
  /-- A dictionary, and whether it may still be taken as a whole. -/
  | byName (entries : List (Value × Value)) (whole : Bool)

/-- The next value. -/
def Source.next? : Source → Option (Value × Source)
  | .inOrder (v :: rest) => some (v, .inOrder rest)
  | .inOrder [] => none
  | .byName entries true => some (.dict entries, .byName entries false)
  | .byName _ false => none

/-! ## Reading a place -/

/-- The flags of a place and the rest behind them. -/
def takeFlags (p : Place) : List Char → Place × List Char
  | '-' :: s => takeFlags { p with left := true } s
  | '+' :: s => takeFlags { p with plus := true } s
  | ' ' :: s => takeFlags { p with space := true } s
  | '0' :: s => takeFlags { p with zero := true } s
  | '#' :: s => takeFlags { p with alternate := true } s
  | s => (p, s)

/-- A number in a place, written out or (as an asterisk) taken from the values. -/
def takeNumber (source : Source) (s : List Char) : Option (Option Int × Source × List Char) :=
  match s with
  | '*' :: s =>
    match source.next? with
    | some (.integer n, source) => some (some n, source, s)
    | some (.bool b, source) => some (some (Value.ofBool b), source, s)
    | _ => none
  | s =>
    let digits := s.takeWhile Char.isDigit
    if digits.isEmpty then some (none, source, s)
    else some (some (Text.numberOfDigits digits : Int), source, s.dropWhile Char.isDigit)

/-- The name in parentheses, from behind the opening one when `depth` more are open. -/
def takeKey : (depth : Nat) → List Char → Option (List Char × List Char)
  | _, [] => none
  | depth, c :: s =>
    if c = ')' then
      match depth with
      | 0 => some ([], s)
      | depth + 1 => (takeKey depth s).map fun (key, rest) => (c :: key, rest)
    else
      (takeKey (if c = '(' then depth + 1 else depth) s).map fun (key, rest) => (c :: key, rest)

/-- The value for a place. -/
def Source.valueFor? (source : Source) (name : Option String) : Option (Value × Source) :=
  match source, name with
  | .byName entries _, some name =>
    (Value.lookup? entries (.string name)).map (·, .byName entries false)
  | .inOrder _, some _ => none
  | source, none => source.next?

/-- The text behind a mark of size, which means nothing. -/
def dropSize : List Char → List Char
  | c :: s => if "hlL".toList.contains c then s else c :: s
  | [] => []

/-- A place from behind its per cent sign: the place, the values that are left, and the rest. -/
def takePlace (source : Source) (s : List Char) : Option (Place × Source × List Char) := do
  let (name, s) ← match s with
    | '(' :: s => (takeKey 0 s).map fun (key, rest) => (some (String.ofList key), rest)
    | s => some (none, s)
  let (p, s) := takeFlags ⟨name, false, false, false, false, false, 0, none, '%'⟩ s
  let (width, source, s) ← takeNumber source s
  let width := width.getD 0
  if widthBound ≤ width.natAbs then none
  let p := { p with width := width.natAbs, left := p.left || width < 0 }
  let (p, source, s) ← match s with
    | '.' :: s => do
      let (precision, source, s) ← takeNumber source s
      let precision := precision.getD 0
      if precision < -(maxPrecision : Int) - 1 ∨ maxPrecision < precision then none
      pure ({ p with precision := some precision.toNat }, source, s)
    | s => some (p, source, s)
  match dropSize s with
  | letter :: s => some ({ p with letter }, source, s)
  | [] => none

/-! ## Showing a value in its place -/

/-- The layout of a place, in which a number may be filled with zeros. -/
def Place.spec (p : Place) (isNumber : Bool) : Spec :=
  let zeros := p.zero && isNumber
  { fill := if zeros && !p.left then '0' else ' '
    align := if p.left then .left else if zeros then .inner else .right
    sign := if p.plus then some .always else if p.space then some .space else none
    unsignedZero := false
    alternate := p.alternate
    width := some p.width
    separator := none
    precision := p.precision
    type := some p.letter }

/-- A text in a place. -/
def Place.showText (p : Place) (s : String) : List Char :=
  let shown := match p.precision with
    | some n => s.toList.take n
    | none => s.toList
  padded ' ' (if p.left then .left else .right) p.width shown

/-- An integer in a place. The precision counts the digits here, and leaves room for a sign and the
mark of the base. A decimal presentation must not have too many digits. -/
def Place.showInteger? (p : Place) (base : Nat) (mark : List Char) (capital : Bool) (n : Int) :
    Option (List Char) :=
  if maxPrecision < p.precision.getD 0 + 3 then none
  else if base = 10 && Value.hasTooManyDigits n then none
  else
    let digits := Nat.toDigits base n.natAbs
    let digits := if capital then digits.map Char.toUpper else digits
    let digits := List.replicate (p.precision.getD 0 - digits.length) '0' ++ digits
    some ((Numeral.mk (n < 0) (if p.alternate then mark else []) digits []).layOut (p.spec true) 3)

/-- The integer that a value is or, for a decimal presentation, comes down to. -/
def integerOf? (decimal : Bool) : Value → Option Int
  | .integer n => some n
  | .bool b => some (Value.ofBool b)
  | .float (.finite negative units) =>
    let n : Int := (units / Binary64.unitsPerOne : Nat)
    if decimal then some (if negative then -n else n) else none
  | _ => none

/-- The double that a value is or is rounded to. -/
def floatOf? : Value → Option Binary64
  | .float x => some x
  | .integer n => Binary64.ofInt? n
  | .bool b => Binary64.ofInt? (Value.ofBool b)
  | _ => none

/-- The character that a value is or has the number of. -/
def characterOf? : Value → Option Char
  | .string s =>
    match s.toList with
    | [c] => some c
    | _ => none
  | .integer n => (Template.characterOf n).toOption
  | .bool b => (Template.characterOf (Value.ofBool b)).toOption
  | _ => none

/-- A value in a place, if it fits. -/
def Place.showValue (p : Place) (v : Value) : Option (List Char) :=
  match p.letter with
  | 's' => (shown v Value.display).toOption.map p.showText
  | 'r' => (shown v Value.literal).toOption.map p.showText
  | 'a' => (shown v Value.literalAscii).toOption.map p.showText
  | 'd' | 'i' | 'u' => (integerOf? true v).bind (p.showInteger? 10 [] false)
  | 'o' => (integerOf? false v).bind (p.showInteger? 8 ['0', 'o'] false)
  | 'x' => (integerOf? false v).bind (p.showInteger? 16 ['0', 'x'] false)
  | 'X' => (integerOf? false v).bind (p.showInteger? 16 ['0', 'X'] true)
  | 'c' => (characterOf? v).map fun c => padded ' ' (if p.left then .left else .right) p.width [c]
  | letter =>
    if "eEfFgG".toList.contains letter then
      (floatOf? v).map (formatFloat (p.spec true) (some letter))
    else none

/-! ## The whole message -/

/-- The text with its places filled. With values in their order, none may be left over. Each step
takes up a character at least, so `fuel` for every character suffices. -/
def fillPlaces : (fuel : Nat) → Source → List Char → Option (List Char)
  | 0, _, s => if s.isEmpty then some [] else none
  | _, .inOrder (_ :: _), [] => none
  | _, _, [] => some []
  | fuel + 1, source, '%' :: '%' :: s => ('%' :: ·) <$> fillPlaces fuel source s
  | fuel + 1, source, '%' :: s => do
    let (p, source, s) ← takePlace source s
    let (v, source) ← source.valueFor? p.name
    let text ← p.showValue v
    (text ++ ·) <$> fillPlaces fuel source s
  | fuel + 1, source, c :: s => (c :: ·) <$> fillPlaces fuel source s

/-- The text of a record: `template` with the values filled in, if there are any. A dictionary
that is the only value gives its entries by name. -/
def message (template : String) (values : List Value) : Option String :=
  let filled (source : Source) : Option String :=
    (fillPlaces (template.length + 1) source template.toList).map String.ofList
  match values with
  | [] => some template
  | [.dict (e :: es)] => filled (.byName (e :: es) true)
  | values => filled (.inOrder values)

end CredentialCheck.Log
