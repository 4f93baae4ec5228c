import CredentialCheck.Text.Blank
import CredentialCheck.Text.UpperCase
import CredentialCheck.Value.Render

/-!
# Settings

What the environment says about logging: the level, and a file to write the log to.

* `resolveLevel` is the level that a text names, in any case and with white space around it. A
  text that names none stands for the usual level.
* `Settings.ofEnvironment` reads the settings.
-/

namespace CredentialCheck

/-- The names of the levels that can be chosen. -/
def levelNames : List String := ["DEBUG", "INFO", "WARNING", "ERROR", "CRITICAL"]

/-- The level where nothing else is said. -/
def usualLevel : String := "WARNING"

/-- The level that a text names, or the usual one. -/
def resolveLevelName (s : String) : String :=
  let name := String.ofList (Text.toUpper (Text.trim s.toList))
  if levelNames.contains name then name else usualLevel

/-- The level that a value names. What is null, zero or empty names the usual one, and so do bytes;
another value that is no text has no name, and its sort is the failure. -/
def resolveLevel (v : Value) : Except Kind String :=
  match v with
  | .string s => .ok (resolveLevelName s)
  | .bytes _ | .byteArray _ => .ok usualLevel
  | v => if v.isTruthy then .error v.kind else .ok usualLevel

/-- The complaint about a value that has no name. -/
def noLevelMessage (kind : Kind) : String :=
  Text.quoted kind.name ++ " object has no attribute 'strip'"

/-- The settings. -/
structure Settings where
  logLevel : String
  /-- The file to write the log to; empty for none. -/
  logFile : String
  deriving DecidableEq, Repr

/-- The environment variable that holds the level. -/
def levelVariable : String := "ANONCREDS_LOG_LEVEL"

/-- The environment variable that holds the log file. -/
def fileVariable : String := "ANONCREDS_LOG_FILE"

/-- The settings that the environment variables make. -/
def Settings.ofEnvironment (env : List (String × String)) : Settings :=
  let setting (name : String) : Option String := (env.find? (·.1 == name)).map Prod.snd
  ⟨resolveLevelName ((setting levelVariable).getD usualLevel), (setting fileVariable).getD ""⟩

end CredentialCheck
