import CredentialCheck.Value.Render

/-!
# Levels of log records

A level is a number, and some numbers have names. A truth value passes for the number 0 or 1, and
is remembered as it was given.

* `Level.ofValue` accepts a number or a name as a level.
-/

namespace CredentialCheck.Log

/-- A level. -/
inductive Level
  | number (n : Int)
  | truth (b : Bool)
  deriving DecidableEq, Repr

/-- The number of a level. -/
def Level.value : Level → Int
  | .number n => n
  | .truth b => Value.ofBool b

/-- The level as a loose value. -/
def Level.toValue : Level → Value
  | .number n => .integer n
  | .truth b => .bool b

/-- The level of a name. -/
def Level.ofName? : String → Option Level
  | "CRITICAL" => some (.number 50)
  | "FATAL" => some (.number 50)
  | "ERROR" => some (.number 40)
  | "WARN" => some (.number 30)
  | "WARNING" => some (.number 30)
  | "INFO" => some (.number 20)
  | "DEBUG" => some (.number 10)
  | "NOTSET" => some (.number 0)
  | _ => none

/-- The name of a level in the log. -/
def Level.name (l : Level) : String :=
  match l.value with
  | 50 => "CRITICAL"
  | 40 => "ERROR"
  | 30 => "WARNING"
  | 20 => "INFO"
  | 10 => "DEBUG"
  | 0 => "NOTSET"
  | _ => "Level " ++ l.toValue.literal

/-- Why a value is no level. -/
inductive LevelFault
  | unknownName (name : String)
  /-- Neither a number nor a name. -/
  | notALevel (v : Value)

/-- The fault in words. -/
def LevelFault.message : LevelFault → String
  | .unknownName name => "Unknown level: " ++ Text.quoted name
  | .notALevel v => "Level not an integer or a valid string: " ++ v.literal

/-- The level that a value stands for. -/
def Level.ofValue (v : Value) : Except LevelFault Level :=
  match v with
  | .integer n => .ok (.number n)
  | .bool b => .ok (.truth b)
  | .string s =>
    match Level.ofName? s with
    | some l => .ok l
    | none => .error (.unknownName s)
  | v => .error (.notALevel v)

end CredentialCheck.Log
