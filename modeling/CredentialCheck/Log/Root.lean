import CredentialCheck.Log.Level
import CredentialCheck.Log.Rotation

/-!
# The root of the log

Records go to the handlers on the root: a stream, a file, or nowhere. Some handlers belong to the
host; this library installs its own by `setup`, in place of those from an earlier `setup`, and
takes them away by `shutdown`. A handler is installed before it is attached to the root, so a
`setup` that fails in between leaves handlers behind that only the next `setup` or `shutdown` takes
away.

* `Root.setup`, `Root.shutdown`, `Root.attach` and `Root.detach` change the handlers.
* `Root.emit` hands a record to the handlers.
-/

namespace CredentialCheck.Log

/-! ## Handlers -/

/-- Where a handler writes to. A file is known by its place. -/
inductive Sink
  | stream
  | file (place : Path) (whenFull : WhenFull)
  | nowhere
  deriving DecidableEq

/-- The sort of handler for a sink. -/
def Sink.handlerName : Sink → String
  | .stream => "StreamHandler"
  | .file _ .grows => "FileHandler"
  | .file _ _ => "RotatingFileHandler"
  | .nowhere => "NullHandler"

/-- The place of the file. -/
def Sink.place? : Sink → Option Path
  | .file place _ => some place
  | _ => none

/-- The sink for a log file that has been opened at a place. -/
def Sink.ofLogFile (directory : Path) (path : Spelling) (place : Path) : Sink :=
  .file place (.ofLogFile (path.absolute directory))

/-- A handler. Two handlers with one sink differ in their serial number. -/
structure Handler where
  serial : Nat
  sink : Sink
  deriving DecidableEq

/-- What a handler is asked to do when it is given up. -/
inductive Call
  | flush (h : Handler)
  | close (h : Handler)
  deriving DecidableEq

/-- Which requests fail. -/
structure Trouble where
  flushFails : Handler → Bool
  closeFails : Handler → Bool

/-- Nothing fails. -/
def Trouble.none : Trouble := ⟨fun _ => false, fun _ => false⟩

/-! ## The root and its records -/

/-- The root of the log. -/
structure Root where
  /-- The handlers on the root, in the order in which they get a record. -/
  handlers : List Handler
  /-- This library's handlers. -/
  installed : List Handler
  /-- Records below this level go nowhere. -/
  level : Level
  /-- The serial number of the next handler. -/
  next : Nat

/-- A log record. -/
structure Record where
  logger : String
  level : Level
  message : String

/-- Why the log cannot be set up. -/
inductive SetupFault
  /-- The log file cannot be opened. -/
  | file (fault : FileSystem.Fault)
  /-- The log file is given by something that is no path. -/
  | notAPath (kind : Kind)
  | level (fault : LevelFault)
  | tooManyArguments (count : Nat)

/-- The fault in words. -/
def SetupFault.message : SetupFault → String
  | .file fault => fault.message
  | .notAPath kind => "expected str, bytes or os.PathLike object, not " ++ kind.name
  | .level fault => fault.message
  | .tooManyArguments count =>
    "setup_logging() takes from 0 to 2 positional arguments but " ++ toString count ++ " were given"

/-- A record as a line of the log. -/
def Record.line (stamp : String) (r : Record) : String :=
  stamp ++ " " ++ r.level.name ++ " " ++ r.logger ++ " " ++ r.message ++ "\n"

namespace Root

/-! ## Putting handlers on and taking them away -/

/-- The root before anything has happened. -/
def fresh : Root := ⟨[], [], .number 30, 0⟩

/-- The root with a handler of the host. -/
def attach (r : Root) (sink : Sink) : Root :=
  { r with handlers := r.handlers ++ [⟨r.next, sink⟩], next := r.next + 1 }

/-- The root without a handler. -/
def detach (r : Root) (h : Handler) : Root := { r with handlers := r.handlers.erase h }

/-- Gives handlers up one by one: each is detached, flushed and, if flushing succeeds, closed. A
failure is passed over. -/
def release (trouble : Trouble) : Root → List Handler → Root × List Call
  | r, [] => (r, [])
  | r, h :: hs =>
    let (final, calls) := release trouble (r.detach h) hs
    (final, .flush h :: ((if trouble.flushFails h then [] else [.close h]) ++ calls))

/-- Takes this library's handlers away, the last one first. -/
def shutdown (r : Root) (trouble : Trouble) : Root × List Call :=
  release trouble { r with installed := [] } r.installed.reverse

/-- The root with one more handler of this library, which is not attached. -/
def install (r : Root) (sink : Sink) : Root :=
  { r with installed := r.installed ++ [⟨r.next, sink⟩], next := r.next + 1 }

/-- The path of a log file, if there is to be one. What is null, zero or empty stands for none. -/
def logPath? (v : Value) : Except SetupFault (Option Spelling) :=
  match v with
  | .string s => .ok (if s.isEmpty then none else some (.text s))
  | .bytes bs => .ok (if bs.isEmpty then none else some (.bytes bs))
  | v => if v.isTruthy then .error (.notAPath v.kind) else .ok none

/-- Installs the stream handler and, if there is to be a log file, its handler. -/
def installAll (r : Root) (fs : FileSystem) (logFile : Value) :
    Except SetupFault Unit × Root × FileSystem :=
  let r := r.install .stream
  match logPath? logFile with
  | .error f => (.error f, r, fs)
  | .ok none => (.ok (), r, fs)
  | .ok (some path) =>
    match fs.openForAppend path with
    | .error f => (.error (.file f), r, fs)
    | .ok (place, opened) => (.ok (), r.install (.ofLogFile fs.directory path place), opened)

/-- Sets the log up with a level and, unless it is empty, a file to write to. -/
def setup (r : Root) (fs : FileSystem) (trouble : Trouble) (level logFile : Value) :
    Except SetupFault Unit × Root × FileSystem :=
  match (r.shutdown trouble).1.installAll fs logFile with
  | (.error f, r, fs) => (.error f, r, fs)
  | (.ok (), r, fs) =>
    match Level.ofValue level with
    | .error f => (.error (.level f), r, fs)
    | .ok level => (.ok (), { r with level, handlers := r.handlers ++ r.installed }, fs)

/-- Sets the log up with the arguments of a call: the level (20 unless given) and the log file
(none unless given). -/
def setupCall (r : Root) (fs : FileSystem) (trouble : Trouble) (args : List Value) :
    Except SetupFault Unit × Root × FileSystem :=
  match args with
  | [] => r.setup fs trouble (.integer 20) .null
  | [level] => r.setup fs trouble level .null
  | [level, logFile] => r.setup fs trouble level logFile
  | args => (.error (.tooManyArguments args.length), r, fs)

/-! ## Records -/

/-- Whether records of a level go anywhere. Those of level zero or less never do. -/
def admits (r : Root) (level : Level) : Bool :=
  0 < level.value && r.level.value ≤ level.value

/-- Hands a line to handlers one by one: what the stream shows, and the files afterwards. -/
def write (fs : FileSystem) (line : String) : List Handler → String × FileSystem
  | [] => ("", fs)
  | h :: hs =>
    let fs := match h.sink with
      | .file place whenFull => fs.writeLine place whenFull line
      | _ => fs
    let (shown, fs) := write fs line hs
    (if h.sink = .stream then line ++ shown else shown, fs)

/-- Hands a record to the handlers. If there are none at all, a record of level 30 or more shows
its bare message on the stream. -/
def emit (r : Root) (fs : FileSystem) (stamp : String) (record : Record) :
    String × FileSystem :=
  if r.admits record.level then
    if r.handlers.isEmpty then
      (if 30 ≤ record.level.value then record.message ++ "\n" else "", fs)
    else write fs (record.line stamp) r.handlers
  else ("", fs)

end Root

end CredentialCheck.Log
