import CredentialCheck.Template.Fault
import CredentialCheck.Text.DecimalDigit

/-!
# Layouts in fields

The part of a field behind the colon says how the value is laid out: what fills the width and on
which side, how signs are shown, whether digits are grouped, how many places there are, and the
type of presentation. `Spec.read` reads it; its parts stand in a fixed order and each may be left
out.
-/

namespace CredentialCheck.Template

/-- Where a value stands in a wider field. -/
inductive Align
  | left
  | right
  | centre
  /-- The filling comes between the sign and the digits. -/
  | inner
  deriving DecidableEq, Repr

/-- The mark of an alignment. -/
def Align.ofMark? : Char → Option Align
  | '<' => some .left
  | '>' => some .right
  | '^' => some .centre
  | '=' => some .inner
  | _ => none

/-- How the sign of a number is shown. -/
inductive SignRule
  | always
  | space
  | minusOnly
  deriving DecidableEq, Repr

/-- The mark of a sign rule. -/
def SignRule.ofMark? : Char → Option SignRule
  | '+' => some .always
  | ' ' => some .space
  | '-' => some .minusOnly
  | _ => none

/-- A layout. -/
structure Spec where
  fill : Char
  align : Align
  sign : Option SignRule
  /-- A negative zero loses its sign. -/
  unsignedZero : Bool
  alternate : Bool
  width : Option Nat
  /-- What stands between groups of digits. -/
  separator : Option Char
  precision : Option Nat
  type : Option Char
  deriving DecidableEq, Repr

/-- The greatest number that a template may name. -/
def maxNumber : Nat := Value.wordBound - 1

/-- The number at the beginning of a text, if there is one, read on from `soFar`. -/
def readNumberFrom (soFar : Option Nat) : List Char → Except Fault (Option Nat × List Char)
  | [] => .ok (soFar, [])
  | c :: s =>
    match Text.digitValue? c with
    | none => .ok (soFar, c :: s)
    | some d =>
      let n := soFar.getD 0 * 10 + d
      if maxNumber < n then .error .numberTooLarge else readNumberFrom (some n) s

namespace Spec

/-- Filling and alignment: a mark of alignment, with the filling in front of it or not. -/
def readAlign (s : List Char) : Option Char × Option Align × List Char :=
  match s with
  | fill :: mark :: rest =>
    match Align.ofMark? mark with
    | some align => (some fill, some align, rest)
    | none =>
      match Align.ofMark? fill with
      | some align => (none, some align, mark :: rest)
      | none => (none, none, s)
  | [mark] =>
    match Align.ofMark? mark with
    | some align => (none, some align, [])
    | none => (none, none, s)
  | [] => (none, none, [])

/-- Whether the text begins with the mark, and the rest behind it. -/
def readMark (mark : Char) : List Char → Bool × List Char
  | [] => (false, [])
  | c :: s => if c = mark then (true, s) else (false, c :: s)

/-- The separator of groups of digits. -/
def readSeparator : List Char → Except Fault (Option Char × List Char)
  | ',' :: '_' :: _ => .error .bothSeparators
  | '_' :: ',' :: _ => .error .bothSeparators
  | ',' :: s => .ok (some ',', s)
  | '_' :: s => .ok (some '_', s)
  | s => .ok (none, s)

/-- The precision behind a point. -/
def readPrecision : List Char → Except Fault (Option Nat × List Char)
  | '.' :: s =>
    match readNumberFrom none s with
    | .error f => .error f
    | .ok (none, _) => .error .missingPrecision
    | .ok (some n, s) => .ok (some n, s)
  | s => .ok (none, s)

/-- Whether digits may be grouped in a type of presentation. A null character counts as a type
that is left out. -/
def allowsSeparator (separator : Char) (type : Char) : Bool :=
  type == '\x00' || "defgEG%F".toList.contains type ||
    (separator == '_' && "boxX".toList.contains type)

/-- Reads a layout for a value of the sort `kind`, whose values stand on the side `side` and are
presented in the type `usual` unless the layout says otherwise. -/
def read (text : List Char) (kind : Kind) (side : Align) (usual : Option Char) :
    Except Fault Spec := do
  let (fill?, align?, s) := readAlign text
  let sign := s.head?.bind SignRule.ofMark?
  let s := if sign.isSome then s.drop 1 else s
  let (unsignedZero, s) := readMark 'z' s
  let (alternate, s) := readMark '#' s
  let (zeroFilled, s) := if fill?.isNone then readMark '0' s else (false, s)
  let fill := fill?.getD (if zeroFilled then '0' else ' ')
  let align := align?.getD (if zeroFilled ∧ side = .right then .inner else side)
  let (width, s) ← readNumberFrom none s
  let (separator, s) ← readSeparator s
  let (precision, s) ← readPrecision s
  if 1 < s.length then throw (.invalidSpec (String.ofList text) kind)
  let type := s.head?.or usual
  match separator, type with
  | some mark, some t =>
    if !allowsSeparator mark t then throw (.separatorNotAllowed mark t)
  | _, _ => pure ()
  return ⟨fill, align, sign, unsignedZero, alternate, width, separator, precision, type⟩

end Spec

end CredentialCheck.Template
