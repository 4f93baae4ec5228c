import CredentialCheck.Pattern.Reader
import CredentialCheck.Value.Render

/-!
# Patterns compiled on first use

A *cell* holds an expression as it was given and, once it has been needed, the compiled pattern.
The first use compiles and announces it; a later use finds it there. An expression that cannot be
compiled leaves the cell as it was, so every use of it fails in the same way.

* `compile` turns a loose value into a pattern.
* `Cell.get` is a use of a cell: the result, the cell afterwards and the announcements made.
* `Cell.fullmatch` uses the pattern on a value, which must be a text.
-/

namespace CredentialCheck.Pattern

/-- Why a pattern cannot be had or used. -/
inductive Failure
  | malformed (fault : Fault)
  /-- The expression is not a text. -/
  | notAnExpression
  /-- The expression cannot even be a key. -/
  | unhashable (kind : Kind)
  /-- The value to match is not a text. -/
  | notAText (kind : Kind)
  deriving DecidableEq

/-- A failure in words. -/
def Failure.message : Failure → String
  | .malformed fault => fault.message
  | .notAnExpression => "first argument must be string or compiled pattern"
  | .unhashable kind => "unhashable type: " ++ Text.quoted kind.name
  | .notAText .bytes | .notAText .byteArray => "cannot use a string pattern on a bytes-like object"
  | .notAText kind => "expected string or bytes-like object, got " ++ Text.quoted kind.name

/-- A pattern ready for use. -/
structure Compiled where
  /-- The text that it was compiled from. -/
  source : String
  flags : Flags
  expression : Expression
  deriving DecidableEq

/-- The pattern that a value describes. -/
def compile (expression : Value) (flags : Flags) : Except Failure Compiled :=
  match expression with
  | .string source =>
    match Expression.read source with
    | .ok e => .ok ⟨source, flags, e⟩
    | .error fault => .error (.malformed fault)
  | v =>
    match v.unhashable? with
    | some kind => .error (.unhashable kind)
    | none => .error .notAnExpression

/-- The number of characters matched, if the pattern describes the whole value. -/
def Compiled.fullmatch (p : Compiled) : Value → Except Failure (Option Nat)
  | .string s => .ok (if p.expression.matchesWhole p.flags s.toList then some s.length else none)
  | v => .error (.notAText v.kind)

/-- The announcement of a compiled pattern. -/
def announcement (expression : Value) : String :=
  "Compiled identifier pattern " ++ expression.literal

/-- An expression and the pattern compiled from it, if it has been used. -/
structure Cell where
  expression : Value
  flags : Flags
  compiled : Option Compiled

namespace Cell

/-- A cell that has not been used. -/
def fresh (expression : Value) (flags : Flags) : Cell := ⟨expression, flags, none⟩

/-- Whether the pattern is there. -/
def isCompiled (c : Cell) : Bool := c.compiled.isSome

/-- The pattern of a cell, the cell afterwards, and the announcements made. -/
def get (c : Cell) : Except Failure Compiled × Cell × List String :=
  match c.compiled with
  | some p => (.ok p, c, [])
  | none =>
    match compile c.expression c.flags with
    | .ok p => (.ok p, { c with compiled := some p }, [announcement c.expression])
    | .error f => (.error f, c, [])

/-- Matches a value against the pattern of a cell. -/
def fullmatch (c : Cell) (v : Value) : Except Failure (Option Nat) × Cell × List String :=
  match c.get with
  | (.ok p, c, log) => (p.fullmatch v, c, log)
  | (.error f, c, log) => (.error f, c, log)

/-- The cell as text. -/
def text (c : Cell) : String :=
  "LazyPattern(" ++ c.expression.literal ++ ", " ++
    (if c.isCompiled then "compiled" else "pending") ++ ")"

end Cell

end CredentialCheck.Pattern
