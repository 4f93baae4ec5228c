import CredentialCheck.Template.Spec
import CredentialCheck.Template.Subject

/-!
# Paths into arguments

Behind the name of a field may stand steps into the argument: `.name` for an attribute and `[key]`
for an element. A key of decimal digits is a number, any other is a text. `follow` follows the
steps.
-/

namespace CredentialCheck.Template

/-- The number that a text spells, if all of it is decimal digits. A number that is too large is a
fault even if other characters follow. -/
def wholeNumber (s : List Char) : Except Fault (Option Nat) :=
  match readNumberFrom none s with
  | .error f => .error f
  | .ok (n, []) => .ok n
  | .ok (_, _ :: _) => .ok none

/-- One step. -/
def stepInto (x : Subject) (isAttribute : Bool) (name : List Char) : Except Fault Subject := do
  let index ← if isAttribute then pure none else wholeNumber name
  if name.isEmpty then throw .emptyStep
  let result := match isAttribute, index with
    | true, _ => x.property (String.ofList name)
    | false, some i => x.element i
    | false, none => x.entry (String.ofList name)
  result.mapError .path

/-- Follows the steps that a path spells. Each takes up a character at least, so `fuel` for every
character suffices. -/
def followFrom : (fuel : Nat) → Subject → List Char → Except Fault Subject
  | 0, x, _ => .ok x
  | _, x, [] => .ok x
  | fuel + 1, x, '.' :: s => do
    let (name, rest) := s.span fun c => c ≠ '.' ∧ c ≠ '['
    followFrom fuel (← stepInto x true name) rest
  | fuel + 1, x, '[' :: s =>
    match s.span (· ≠ ']') with
    | (_, []) => .error .unclosedBracket
    | (name, _ :: rest) => do followFrom fuel (← stepInto x false name) rest
  | _, _, _ => .error .stepAfterBracket

/-- Follows the steps that a path spells into a value. -/
def follow (v : Value) (path : List Char) : Except Fault Subject :=
  followFrom path.length (.value v) path

end CredentialCheck.Template
