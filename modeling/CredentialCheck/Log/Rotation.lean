import CredentialCheck.FileSystem

/-!
# Log files that are rolled over

A log file that a line would fill is moved out of the way, and an empty one is begun. The files that
have been moved are the backups: there are three, and the oldest goes when a fourth would be made.

* `Path.backup` is the place of a backup.
* `WhenFull` says what becomes of a file that is full; `WhenFull.ofLogFile` depends on how the file
  is spelled.
* `rollOver` moves the files, `writeLine` hands a line to a file and rolls it over if need be.
-/

namespace CredentialCheck

/-! ## Names -/

/-- The place of a backup of the file at a place, by its number. -/
def Path.backup (place : Path) (number : Nat) : Path :=
  place.dropLast ++ [place.getLast?.getD [] ++ FileName.ofText ("." ++ toString number)]

namespace Log

/-- A log file is full when it has so many bytes. -/
def maxBytes : Nat := 10000000

/-- The number of backups. -/
def backupCount : Nat := 3

/-- What becomes of a file that a line would fill. -/
inductive WhenFull
  /-- It goes on growing. -/
  | grows
  /-- It is moved out of the way. -/
  | rollsOver
  /-- It cannot be moved, and the line is lost. -/
  | losesLines
  deriving DecidableEq, Repr

/-- What becomes of a log file with a path from the root. It is rolled over if its backups have
names, which take two bytes more than its own; names are made of texts only. -/
def WhenFull.ofLogFile : Spelling → WhenFull
  | .bytes _ => .losesLines
  | .text s =>
    let path := Spelling.text s
    if (path.parts.getLast?.getD []).length + 2 ≤ FileSystem.maxNameBytes ∧
        path.toBytes.length + 2 < FileSystem.pathBytesBound then .rollsOver
    else .losesLines

end Log

namespace FileSystem

open Log

/-! ## Rolling over -/

/-- Moves a backup up by one, if there is one. A directory in the way stays there. -/
def moveBackup (fs : FileSystem) (place : Path) (number : Nat) : Option FileSystem :=
  if (fs.node? (place.backup number)).isSome then
    (fs.remove? (place.backup (number + 1))).map
      (·.rename (place.backup number) (place.backup (number + 1)))
  else some fs

/-- Moves the backups up to a number, the oldest first. -/
def moveBackups (fs : FileSystem) (place : Path) : (number : Nat) → Option FileSystem
  | 0 => some fs
  | number + 1 => (fs.moveBackup place (number + 1)).bind (·.moveBackups place number)

/-- The tree in which the file at a place, with that content, is the first backup, and an empty one
is in its place. -/
def rollOver (fs : FileSystem) (place : Path) (content : List UInt8) : Option FileSystem :=
  (fs.moveBackups place (backupCount - 1)).bind fun fs =>
    (fs.remove? (place.backup 1)).map fun fs =>
      (fs.put (place.backup 1) (.file content)).put place (.file [])

/-! ## Writing a line -/

/-- Whether a line would fill the file. The line counts by its characters. -/
def wouldFill (content : List UInt8) (line : String) : Bool :=
  maxBytes ≤ content.length + line.length

/-- Hands a line to the file at a place. What is no file does not fill up. -/
def writeLine (fs : FileSystem) (place : Path) (whenFull : WhenFull) (line : String) :
    FileSystem :=
  let written := fs.append place (Text.Utf8.encode line.toList)
  match whenFull, fs.content? place with
  | .rollsOver, some content =>
    if wouldFill content line then
      match fs.rollOver place content with
      | some fs => fs.append place (Text.Utf8.encode line.toList)
      | none => fs
    else written
  | .losesLines, some content => if wouldFill content line then fs else written
  | _, _ => written

end FileSystem

end CredentialCheck
