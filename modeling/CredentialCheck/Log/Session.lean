import CredentialCheck.Log.Message
import CredentialCheck.Log.Root

/-!
# A session with the log

The steps that a program takes with the log: setting it up and shutting it down, handlers that the
host attaches, records, and a look at a file. `Session.step` does one step and tells what the
error stream shows meanwhile; `Session.run` does many.
-/

namespace CredentialCheck.Log

/-- Something to do with the log. -/
inductive Step
  | setup (args : List Value)
  /-- Give the handlers up; flushing the stream may fail. -/
  | shutdown (flushFails : Bool)
  /-- The host attaches a handler that writes nowhere. -/
  | attachHost
  | log (logger : String) (level : Value) (template : Value) (values : List Value)
  | read (path : String)

/-- The result of a step. -/
inductive Result
  | done
  | content (text : Option String)

/-- Why a step fails. -/
inductive StepFault
  | setup (fault : SetupFault)
  /-- The level of a record is a number. -/
  | levelNotInteger

/-- The fault in words. -/
def StepFault.message : StepFault → String
  | .setup fault => fault.message
  | .levelNotInteger => "level must be an integer"

/-- The log, the files, and the time that records are stamped with. -/
structure Session where
  root : Root
  files : FileSystem
  stamp : String

/-- The level of a record. -/
def recordLevel? : Value → Option Level
  | .integer n => some (.number n)
  | .bool b => some (.truth b)
  | _ => none

/-- The name under which records of a logger stand in the log. -/
def loggerName (name : String) : String := if name.isEmpty then "root" else name

/-- Trouble with flushing the stream. -/
def streamTrouble (flushFails : Bool) : Trouble :=
  ⟨fun h => flushFails && h.sink == .stream, fun _ => false⟩

/-- Hands a record to the log. A record whose values do not fit its message is dropped. -/
def Session.record (s : Session) (logger : String) (level : Level) (template : Value)
    (values : List Value) : String × Session :=
  if s.root.admits level then
    match message template.display values with
    | none => ("", s)
    | some text =>
      let (shown, files) := s.root.emit s.files s.stamp ⟨loggerName logger, level, text⟩
      (shown, { s with files })
  else ("", s)

/-- Does one step: its result, what the error stream shows, and the session afterwards. -/
def Session.step (s : Session) : Step → Except StepFault Result × String × Session
  | .setup args =>
    match s.root.setupCall s.files .none args with
    | (.ok (), root, files) => (.ok .done, "", { s with root, files })
    | (.error f, root, files) => (.error (.setup f), "", { s with root, files })
  | .shutdown flushFails =>
    (.ok .done, "", { s with root := (s.root.shutdown (streamTrouble flushFails)).1 })
  | .attachHost => (.ok .done, "", { s with root := s.root.attach .nowhere })
  | .log logger level template values =>
    match recordLevel? level with
    | none => (.error .levelNotInteger, "", s)
    | some level =>
      let (shown, s) := s.record logger level template values
      (.ok .done, shown, s)
  | .read path => (.ok (.content (s.files.readExact (.text path)).toOption), "", s)

/-- Does steps in order: for each its result, what the error stream shows, and the session
afterwards. -/
def Session.run (s : Session) : List Step → List (Except StepFault Result × String × Session)
  | [] => []
  | step :: steps =>
    let (result, shown, next) := s.step step
    (result, shown, next) :: next.run steps

end CredentialCheck.Log
