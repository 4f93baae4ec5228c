import CredentialCheck.Template.Format
import CredentialCheck.Template.Path
import CredentialCheck.Template.Scan

/-!
# Filling in a template

The fields of a template take their values from positional arguments, by a number or in their
order, and from keyword arguments. Once a template has used numbers it cannot leave them out, and
the other way round; the count of the fields without a number runs on through the fields inside
layouts. Texts that are put in are not looked at again.

* `fill` fills in a template, `fillPieces` the pieces of one.
-/

namespace CredentialCheck.Template

/-- The arguments of a template. -/
structure Arguments where
  positional : List Value
  keyword : List (String × Value)

/-- How the positional fields seen so far were named. -/
inductive Numbering
  | undecided
  /-- Without numbers; the next one has the number `next`. -/
  | automatic (next : Nat)
  | explicit
  deriving DecidableEq, Repr

/-- How a field names its argument. -/
inductive Reference
  | next
  | position (index : Nat)
  | keyword (name : String)
  deriving DecidableEq, Repr

/-- The name of a field as a reference, and the path behind it. -/
def Reference.read (name : List Char) : Except Fault (Reference × List Char) :=
  let (first, path) := name.span fun c => c ≠ '.' ∧ c ≠ '['
  if first.isEmpty then .ok (.next, path)
  else
    match wholeNumber first with
    | .error f => .error f
    | .ok (some i) => .ok (.position i, path)
    | .ok none => .ok (.keyword (String.ofList first), path)

/-- The positional argument of a number. -/
def Arguments.atPosition (args : Arguments) (i : Nat) : Except Fault Value :=
  match args.positional[i]? with
  | some v => .ok v
  | none => .error (.noPositional i)

/-- The argument that a reference names, and the numbering behind it. -/
def Arguments.resolve (args : Arguments) (numbering : Numbering) :
    Reference → Except Fault (Value × Numbering)
  | .next =>
    match numbering with
    | .explicit => .error .automaticAfterExplicit
    | .undecided => (args.atPosition 0).map (·, .automatic 1)
    | .automatic n => (args.atPosition n).map (·, .automatic (n + 1))
  | .position i =>
    match numbering with
    | .automatic _ => .error .explicitAfterAutomatic
    | _ => (args.atPosition i).map (·, .explicit)
  | .keyword name =>
    match args.keyword.find? (·.1 == name) with
    | some entry => .ok (entry.2, numbering)
    | none => .error (.noKeyword name)

/-- A subject as text, by a way of showing it. -/
def Subject.shown (x : Subject) (text : Subject → String) : Except Fault String :=
  match x with
  | .value v => Template.shown v fun v => text (.value v)
  | x => .ok (text x)

/-- A subject after a conversion. A null character in its place stands for none. -/
def Subject.convert (x : Subject) : Option Char → Except Fault Subject
  | none => .ok x
  | some '\x00' => .ok x
  | some 'r' => (x.shown Subject.literal).map (.value <| .string ·)
  | some 's' => (x.shown Subject.display).map (.value <| .string ·)
  | some 'a' => (x.shown Subject.literalAscii).map (.value <| .string ·)
  | some c => .error (.unknownConversion c)

/-- A subject under a layout. Only values have any. -/
def Subject.format (x : Subject) (text : List Char) : Except Fault (List Char) :=
  match x with
  | .value v => Template.format v text
  | x => if text.isEmpty then .ok x.display.toList else .error (.noLayout x.owner)

/-- One field: its text and the numbering behind it. `fillSpec` fills in its layout. -/
def fillField (args : Arguments)
    (fillSpec : Numbering → List Char → Except Fault (List Char × Numbering))
    (numbering : Numbering) (f : Field) : Except Fault (List Char × Numbering) := do
  let (reference, path) ← Reference.read f.name
  let (argument, numbering) ← args.resolve numbering reference
  let x ← (← follow argument path).convert f.conversion
  let (spec, numbering) ←
    if f.spec.contains '{' then fillSpec numbering f.spec else pure (f.spec, numbering)
  return (← x.format spec, numbering)

/-- Pieces one after the other. -/
def fillPieces (args : Arguments)
    (fillSpec : Numbering → List Char → Except Fault (List Char × Numbering)) :
    Numbering → List Piece → Except Fault (List Char × Numbering)
  | numbering, [] => .ok ([], numbering)
  | numbering, .literal text :: pieces => do
    let (rest, numbering) ← fillPieces args fillSpec numbering pieces
    return (text ++ rest, numbering)
  | numbering, .field f :: pieces => do
    let (text, numbering) ← fillField args fillSpec numbering f
    let (rest, numbering) ← fillPieces args fillSpec numbering pieces
    return (text ++ rest, numbering)
  | _, .broken fault :: _ => .error fault

/-- A template whose fields may have fields in their layouts down to the depth `depth`. -/
def fillTo (args : Arguments) :
    (depth : Nat) → Numbering → List Char → Except Fault (List Char × Numbering)
  | 0, _, _ => .error .nestedTooDeep
  | depth + 1, numbering, s => fillPieces args (fillTo args depth) numbering (scan s)

/-- The text of a template filled in. A field in a layout cannot have fields in its own. -/
def fill (args : Arguments) (template : String) : Except Fault String :=
  (fillTo args 2 .undecided template.toList).map fun (text, _) => String.ofList text

end CredentialCheck.Template
