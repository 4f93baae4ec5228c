import CredentialCheck.CommandLine.Arguments
import CredentialCheck.CommandLine.Help
import CredentialCheck.Console
import CredentialCheck.Document.Report
import CredentialCheck.Log.Root

/-!
# A run of the command

The command checks its items in order: the identifiers, the schemas, and the credential
definitions. Each item gets one line of output, and a faulty one does not keep the others from
being checked. The status is 0 if all items are valid and 1 otherwise.

A run changes a `World`: the console, the files, the log, and the shared patterns, which are
compiled and announced in the log when they are first needed.

* `checkItem` checks one item and prints its line.
* `checkAll` checks the items in order.
* `run` is the whole command.
-/

namespace CredentialCheck.CommandLine

/-! ## What a run works on -/

/-- What a run works on. -/
structure World where
  console : Console
  /-- How many more times the console can be printed on; without a number there is no end. -/
  printsLeft : Option Nat
  files : FileSystem
  log : Log.Root
  patterns : Pattern.Shared
  /-- The time that log records are stamped with. -/
  stamp : String

/-- The world of a new process. -/
def World.fresh (files : FileSystem) (stamp : String) : World :=
  ⟨.empty, none, files, .fresh, .fresh, stamp⟩

/-- An exception that ends a run before its time. -/
inductive Escape
  /-- The log cannot be set up. -/
  | setup (fault : Log.SetupFault)
  /-- A path that the system does not take for one. -/
  | badPath (fault : FileSystem.Fault)
  /-- A path that is no text. -/
  | notAPath (kind : Kind)
  /-- A document that cannot be judged. -/
  | misuse (m : Misuse)
  /-- An error without a text. -/
  | noText (kind : Kind)
  /-- The console does not take any more. -/
  | consoleClosed

/-- The exception in words. -/
def Escape.message : Escape → String
  | .setup fault => fault.message
  | .badPath fault => fault.message
  | .notAPath kind => (Log.SetupFault.notAPath kind).message
  | .misuse m => m.message
  | .noText kind => ValidationError.notTextMessage kind
  | .consoleClosed => ""

/-- How a run ends. -/
inductive Exit
  | status (n : Nat)
  | escaped (e : Escape)

/-- One thing to check. -/
inductive Item
  | identifier (s : String)
  | document (model : Document.Model) (path : Value)

/-- What a command line asks to be checked, in order. -/
def Arguments.items (a : Arguments) : List Item :=
  a.identifiers.map .identifier ++ a.schemas.map (.document .schema) ++
    a.credentialDefinitions.map (.document .credentialDefinition)

/-! ## Single actions -/

/-- An action of a run. -/
abbrev Action := StateM World

/-- Hands a record to the log. What the stream handler shows goes to the error stream. -/
def record (logger : String) (level : Int) (message : String) : Action Unit :=
  modify fun w =>
    let (shown, files) := w.log.emit w.files w.stamp ⟨logger, .number level, message⟩
    { w with console := w.console.write .error shown, files }

/-- Prints a line, unless the console is closed. -/
def printLine (stream : Stream) (text : String) : Action (Except Escape Unit) := do
  let w ← get
  match w.printsLeft with
  | some 0 => return .error .consoleClosed
  | left =>
    set { w with console := w.console.line stream text, printsLeft := left.map (· - 1) }
    return .ok ()

/-! ## Identifiers -/

/-- Tests a value with one of the shared patterns; what it announces goes to the log. -/
def testWith (test : Pattern.Shared → Value → Bool × Pattern.Shared × List String) (v : Value) :
    Action Bool := do
  let (found, patterns, announcements) := test (← get).patterns v
  modify fun w => { w with patterns }
  announcements.forM (record "anoncreds_validation.core.patterns" 10)
  return found

/-- The form of an identifier. -/
def classifyIdentifier (s : String) : Action Identifier.Form := do
  if ← testWith Pattern.Shared.isUri (.string s) then return .uri
  if ← testWith Pattern.Shared.isLegacy (.string s) then return .legacy
  return .invalid

/-- Whether an identifier has the form asked for. -/
def acceptsIdentifier (s : String) (asked : Value) : Action Bool := do
  match ← classifyIdentifier s with
  | .invalid => return false
  | form => return asked.equal (.string "any") || asked.equal (.string form.name)

/-- Checks an identifier and prints its line; the result is whether it is valid. -/
def checkIdentifier (asked : Value) (s : String) : Action (Except Escape Bool) := do
  let form ← classifyIdentifier s
  let valid ← acceptsIdentifier s asked
  let shown := if valid then form.name else Identifier.Form.invalid.name
  return (← printLine .output (s ++ ": " ++ shown)).map fun () => valid

/-! ## Documents -/

/-- Why a document is not valid: the text that is shown. -/
abbrev Reason := String

/-- The reason that an error gives. -/
def reasonOf (e : ValidationError) : Except Escape Reason :=
  e.text.mapError .noText

/-- Loads a document from the text of a file; without a reason it is valid. -/
def loadText (model : Document.Model) (text : String) :
    Action (Except Escape (Option Reason)) := do
  match Document.parse model (.string text) with
  | .error issues =>
    let failure : LoadFailure := .unparsable .json issues
    return (reasonOf (failure.validationError model)).map some
  | .ok d =>
    match ← d.draft.verdictWith (testWith Pattern.Shared.isIdentifier) with
    | .error m => return .error (.misuse m)
    | .ok none => return .ok none
    | .ok (some e) =>
      match reasonOf e with
      | .error escape => return .error escape
      | .ok reason =>
        record "anoncreds_validation.core.models" 10
          (model.name ++ " failed validation: " ++ reason)
        return .ok (some reason)

/-- Reads a file and loads the document in it; without a reason it is valid. -/
def loadFile (model : Document.Model) (path : String) :
    Action (Except Escape (Option Reason)) := do
  match (← get).files.readText (.text path) with
  | .ok text => loadText model text
  | .error .nullInPath => return .error (.badPath .nullInPath)
  | .error fault => return .ok (some ("Cannot read " ++ path ++ ": " ++ fault.message))

/-- The line for a document that is not valid. -/
def invalidLine (path : String) (reason : Reason) : String :=
  path ++ ": invalid (" ++ (if reason.isEmpty then "no details" else reason) ++ ")"

/-- Checks a document and prints its line; the result is whether it is valid. -/
def checkDocument (model : Document.Model) (path : Value) : Action (Except Escape Bool) := do
  match path with
  | .string path =>
    match ← loadFile model path with
    | .error escape => return .error escape
    | .ok none =>
      return (← printLine .output (path ++ ": valid " ++ model.name)).map fun () => true
    | .ok (some reason) =>
      record "anoncreds_validation.cli.cli" 20 ("Validation of " ++ path ++ " failed")
      return (← printLine .output (invalidLine path reason)).map fun () => false
  | v => return .error (.notAPath v.kind)

/-! ## Items -/

/-- Checks an item and prints its line. -/
def checkItem (asked : Value) : Item → Action (Except Escape Bool)
  | .identifier s => checkIdentifier asked s
  | .document model path => checkDocument model path

/-- Checks items in order; the result is how many of them are not valid. -/
def checkAll (asked : Value) : List Item → Action (Except Escape Nat)
  | [] => return .ok 0
  | item :: items => do
    match ← checkItem asked item with
    | .error escape => return .error escape
    | .ok valid =>
      match ← checkAll asked items with
      | .error escape => return .error escape
      | .ok n => return .ok (if valid then n else n + 1)

/-! ## The whole run -/

/-- Sets the log up. -/
def setupLog (level file : Value) : Action (Except Escape Unit) := do
  let w ← get
  let (result, log, files) := w.log.setup w.files .none level file
  set { w with log, files }
  return result.mapError .setup

/-- Shuts the log down. -/
def shutdownLog : Action Unit :=
  modify fun w => { w with log := (w.log.shutdown .none).1 }

/-- Does what a command line asks for. The log is shut down whatever happens to the items. -/
def execute (a : Arguments) : Action Exit := do
  match ← setupLog a.logLevel a.logFile with
  | .error escape => return .escaped escape
  | .ok () =>
    let result ← checkAll a.kind a.items
    shutdownLog
    match result with
    | .error escape => return .escaped escape
    | .ok 0 => return .status 0
    | .ok n =>
      match ← printLine .error (toString n ++ " item(s) failed validation") with
      | .error escape => return .escaped escape
      | .ok () => return .status 1

/-- Writes an explanation of the command on a stream. -/
def explain (stream : Stream) (text : String) : Action Unit :=
  modify fun w => { w with console := w.console.write stream text }

/-- The whole command: help and refusals are shown, everything else is done. -/
def run (settings : Settings) (argv : List String) : Action Exit := do
  match parse settings argv with
  | .error .help =>
    explain .output help
    return .status 0
  | .error (.refused r) =>
    explain .error (usage ++ programName ++ ": error: " ++ r.message ++ "\n")
    return .status 2
  | .ok a => execute a

end CredentialCheck.CommandLine
