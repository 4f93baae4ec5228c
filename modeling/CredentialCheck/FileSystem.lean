import CredentialCheck.FileSystem.Spelling
import CredentialCheck.Text.LineEnding

/-!
# Files

A tree of files and directories with a working directory, and what happens when a path is opened
to be read or to be written at the end.

* `resolve` follows a path.
* `readExact` reads a file as UTF-8 text, `readText` with its line endings unified.
* `openForAppend` and `append` write at the end of a file, `remove?` and `rename` take files away.
* `placesOn` lists what has to be known of a tree in order to follow a path.
-/

namespace CredentialCheck

/-! ## Faults of the system -/

/-- A fault of the system, by its number and its text. -/
structure Errno where
  number : Nat
  message : String
  deriving DecidableEq, Repr

namespace Errno

/-- Nothing is there. -/
def notFound : Errno := ⟨2, "No such file or directory"⟩

/-- The path goes on behind something that is no directory. -/
def notDirectory : Errno := ⟨20, "Not a directory"⟩

/-- A directory is no file. -/
def isDirectory : Errno := ⟨21, "Is a directory"⟩

/-- The path, or a name in it, is too long. -/
def nameTooLong : Errno := ⟨36, "File name too long"⟩

end Errno

/-! ## The tree -/

/-- What stands at a place. -/
inductive Node
  | file (content : List UInt8)
  | directory
  /-- A device that is always empty and keeps nothing that is written to it. -/
  | void
  /-- What the system refuses to open or to go through, with the fault that it reports. -/
  | refused (fault : Errno)
  deriving DecidableEq

/-- A tree of files. The working directory and the directories above it are always there. -/
structure FileSystem where
  /-- The working directory. -/
  directory : Path
  nodes : List (Path × Node)

namespace FileSystem

/-- The directories under the root that every system has. -/
def usualDirectories : List String :=
  ["bin", "boot", "dev", "etc", "home", "lib", "media", "mnt", "opt", "proc", "root", "run", "sbin",
    "srv", "sys", "tmp", "usr", "var"]

/-- A tree with what every system has, and an empty working directory. -/
def usual (directory : Path) : FileSystem :=
  ⟨directory, (["dev", "null"].map FileName.ofText, .void) ::
    usualDirectories.map fun name => ([FileName.ofText name], .directory)⟩

/-! ## Faults -/

/-- Why a path cannot be opened, or the file not read. -/
inductive Fault
  | errno (e : Errno) (path : Spelling)
  /-- The path holds a null character, so it is no path at all. -/
  | nullInPath
  /-- The file is not UTF-8. -/
  | notUtf8 (fault : Text.Utf8.Fault)

/-- A fault of UTF-8 as reading a file reports it. -/
def notUtf8Message (f : Text.Utf8.Fault) : String :=
  let place := match f.bytes with
    | [b] =>
      "byte 0x" ++ String.ofList (Text.fixedHex 2 b.toNat) ++ " in position " ++ toString f.offset
    | bs =>
      "bytes in position " ++ toString f.offset ++ "-" ++ toString (f.offset + bs.length - 1)
  "'utf-8' codec can't decode " ++ place ++ ": " ++ f.reason.message

/-- The fault in words. -/
def Fault.message : Fault → String
  | .errno e path =>
    "[Errno " ++ toString e.number ++ "] " ++ e.message ++ ": " ++ path.literal
  | .nullInPath => "embedded null byte"
  | .notUtf8 fault => notUtf8Message fault

/-! ## Finding what stands at a path -/

/-- The greatest number of bytes in one name of a path. -/
def maxNameBytes : Nat := 255

/-- The least number of bytes that a path cannot have. -/
def pathBytesBound : Nat := 4096

/-- What stands at a place of the tree. -/
def node? (fs : FileSystem) (path : Path) : Option Node :=
  if path.isPrefixOf fs.directory then some .directory
  else (fs.nodes.find? fun n => n.1 == path).map Prod.snd

/-- Where a path leads. -/
inductive Target
  | node (path : Path) (node : Node)
  /-- A place where nothing is, in a directory. -/
  | free (path : Path)
  deriving DecidableEq

/-- Follows the parts of a path from a place of the tree, where `node` is. -/
def follow (fs : FileSystem) : (place : Path) → (node : Node) → List FileName →
    Except Errno Target
  | place, node, [] => .ok (.node place node)
  | _, .file _, _ :: _ => .error .notDirectory
  | _, .void, _ :: _ => .error .notDirectory
  | _, .refused fault, _ :: _ => .error fault
  | place, .directory, part :: rest =>
    if Path.staysAt part then follow fs place .directory rest
    else if Path.goesBack part then follow fs place.dropLast .directory rest
    else if maxNameBytes < part.length then .error .nameTooLong
    else
      let child := place ++ [part]
      match fs.node? child with
      | some node => follow fs child node rest
      | none => if rest.isEmpty then .ok (.free child) else .error .notFound

/-- Where a path leads, from the root or from the working directory. -/
def resolve (fs : FileSystem) (path : Spelling) : Except Fault Target :=
  let fail (e : Errno) : Except Fault Target := .error (.errno e path)
  if 0 ∈ path.toBytes then .error .nullInPath
  else if path.toBytes.isEmpty then fail .notFound
  else if pathBytesBound ≤ path.toBytes.length then fail .nameTooLong
  else
    match fs.follow (path.start fs.directory) .directory path.parts with
    | .ok target => .ok target
    | .error e => fail e

/-! ## Reading -/

/-- The bytes of a file. -/
def readBytes (fs : FileSystem) (path : Spelling) : Except Fault (List UInt8) :=
  match fs.resolve path with
  | .error f => .error f
  | .ok (.node _ (.file content)) => .ok content
  | .ok (.node _ .void) => .ok []
  | .ok (.node _ .directory) => .error (.errno .isDirectory path)
  | .ok (.node _ (.refused fault)) => .error (.errno fault path)
  | .ok (.free _) => .error (.errno .notFound path)

/-- The text of a file as it stands there. -/
def readExact (fs : FileSystem) (path : Spelling) : Except Fault String :=
  match fs.readBytes path with
  | .error f => .error f
  | .ok bs =>
    match Text.Utf8.decode bs with
    | .ok s => .ok (String.ofList s)
    | .error fault => .error (.notUtf8 fault)

/-- The text of a file, each line of which ends with a line feed. -/
def readText (fs : FileSystem) (path : Spelling) : Except Fault String :=
  (fs.readExact path).map fun s => String.ofList (Text.unifyLineEndings s.toList)

/-- The places that a path leads through, from its beginning to its end. -/
def placesOn (fs : FileSystem) (path : Spelling) : List Path :=
  (List.range (path.parts.length + 1)).map fun n =>
    Path.walk (path.start fs.directory) (path.parts.take n)

/-! ## Writing -/

/-- The tree with other contents at a place. -/
def put (fs : FileSystem) (path : Path) (node : Node) : FileSystem :=
  if fs.nodes.any (·.1 == path) then
    { fs with nodes := fs.nodes.map fun n => if n.1 == path then (path, node) else n }
  else { fs with nodes := fs.nodes ++ [(path, node)] }

/-- The place of a file to write to and the tree in which it is there. A file that is missing is
made. The path is made absolute first. -/
def openForAppend (fs : FileSystem) (path : Spelling) : Except Fault (Path × FileSystem) :=
  let path := path.absolute fs.directory
  match fs.resolve path with
  | .error f => .error f
  | .ok (.node _ .directory) => .error (.errno .isDirectory path)
  | .ok (.node _ (.refused fault)) => .error (.errno fault path)
  | .ok (.node place _) => .ok (place, fs)
  | .ok (.free place) => .ok (place, fs.put place (.file []))

/-- The tree with bytes added to the file at a place. -/
def append (fs : FileSystem) (place : Path) (bs : List UInt8) : FileSystem :=
  match fs.node? place with
  | some (.file content) => fs.put place (.file (content ++ bs))
  | _ => fs

/-- The content of the file at a place. -/
def content? (fs : FileSystem) (place : Path) : Option (List UInt8) :=
  match fs.node? place with
  | some (.file content) => some content
  | _ => none

/-! ## Moving and removing -/

/-- The tree without what stands at a place, if anything does. A directory is not removed. -/
def remove? (fs : FileSystem) (place : Path) : Option FileSystem :=
  match fs.node? place with
  | some .directory => none
  | _ => some { fs with nodes := fs.nodes.filter fun n => n.1 ≠ place }

/-- The tree with what stands at `source`, and everything below it, moved to `target`, where
nothing is. The working directory is moved with it. -/
def rename (fs : FileSystem) (source target : Path) : FileSystem where
  directory := Path.moved source target fs.directory
  nodes := fs.nodes.map fun n => (Path.moved source target n.1, n.2)

/-- The tree with a file or a directory at a path from the working directory, and the directories
on the way to it. -/
def make (fs : FileSystem) (path : Spelling) (node : Node) : FileSystem :=
  let place := path.place fs.directory
  let above := (List.range place.length).drop (fs.directory.length + 1)
  (above.foldl (fun fs n =>
    if (fs.node? (place.take n)).isSome then fs else fs.put (place.take n) .directory) fs).put
    place node

end FileSystem

end CredentialCheck
