import CredentialCheck.CommandLine.Run
import CredentialCheck.Log.Stamp
import Std.Time.DateTime.Timestamp

/-!
# The command

The program that checks identifiers and documents. A run is a function on files in memory
(`CommandLine.run`), so the program first reads what stands on the paths that the command line
names and in the backups of its log file, and behind the run prints what the console has taken and
brings the disk to where the run has brought the files. All records of a run bear the time at which
it began.
-/

namespace CredentialCheck.CommandLine

/-- The environment variables that make the settings. -/
def readEnvironment : IO (List (String × String)) :=
  [levelVariable, fileVariable].filterMapM fun name => do
    return (← IO.getEnv name).map fun value => (name, value)

/-- What stands at a place on the disk. -/
def readNode (place : Path) : IO (Option Node) := do
  match ← (IO.FS.readBinFile (place.text)).toBaseIO with
  | .ok bytes => return some (.file bytes.toList)
  | .error (.inappropriateType ..) => return some .directory
  | .error (.permissionDenied _ code details) => return some (.refused ⟨code.toNat, details⟩)
  | .error (.hardwareFault code details) => return some (.refused ⟨code.toNat, details⟩)
  | .error _ => return none

/-- The tree with what stands at the places on the disk. -/
def readPlaces (tree : FileSystem) (places : List Path) : IO FileSystem :=
  places.foldlM (fun tree place => do
    if (tree.node? place).isSome then return tree
    match ← readNode place with
    | some node => return tree.put place node
    | none => return tree) tree

/-- The places of the backups of the log file that a command line names, the oldest first. -/
def logBackups (directory : Path) (a : Arguments) : List Path :=
  match a.logFile with
  | .string path =>
    let place := (Spelling.text path).place directory
    (List.range' 1 Log.backupCount).reverse.map place.backup
  | _ => []

/-- The files that a command line names and the backups of its log file, with the places of these
backups. -/
def readFiles (settings : Settings) (argv : List String) : IO (FileSystem × List Path) := do
  let names := (toString (← IO.currentDir)).splitOn "/"
  let tree : FileSystem := ⟨(names.filter (!·.isEmpty)).map FileName.ofText, []⟩
  match parse settings argv with
  | .ok a =>
    let backups := logBackups tree.directory a
    let places := a.paths.flatMap fun path => tree.placesOn (.text path)
    return (← readPlaces tree (places ++ backups), backups)
  | .error _ => return (tree, [])

/-- Moves the directories among the backups to where a run has moved them. It never removes or makes
one, and they keep their order. -/
def moveDirectories (before after : FileSystem) (backups : List Path) : IO Unit :=
  let directories (tree : FileSystem) := backups.filter (tree.node? · = some .directory)
  ((directories before).zip (directories after)).forM fun (source, target) => do
    if source ≠ target then IO.FS.rename (source.text) (target.text)

/-- Removes the files that a run has removed or moved, moves directories, and writes the files that
it has changed or made. -/
def writeFiles (before after : FileSystem) (backups : List Path) : IO Unit := do
  before.nodes.forM fun (place, _) => do
    if (before.content? place).isSome && (after.content? place).isNone then
      IO.FS.removeFile (place.text)
  moveDirectories before after backups
  after.nodes.forM fun (place, _) => do
    match after.content? place with
    | some content =>
      if before.content? place ≠ some content then
        IO.FS.writeBinFile (place.text) ⟨content.toArray⟩
    | none => return ()

end CredentialCheck.CommandLine

open CredentialCheck CommandLine in
/-- The command: 0 if all items are valid, 1 if some are not, 2 for a command line that is not
accepted. -/
def main (argv : List String) : IO UInt32 := do
  let settings := Settings.ofEnvironment (← readEnvironment)
  let (before, backups) ← readFiles settings argv
  let now ← Std.Time.Timestamp.now
  let stamp := Log.stampOf now.toMillisecondsSinceUnixEpoch.val.toNat
  let (exit, world) := (run settings argv).run (.fresh before stamp)
  IO.print (world.console.text .output)
  IO.eprint (world.console.text .error)
  writeFiles before world.files backups
  match exit with
  | .status n => return UInt32.ofNat n
  | .escaped e =>
    IO.eprintln e.message
    return 1
