import CredentialCheck.Text.Quoted
import CredentialCheck.Text.Utf8

/-!
# Paths

A path is spelled as a text or as bytes, and leads over names from the root, or from a directory,
to a place in a tree of files. Names are bytes; those of a text are its parts in UTF-8.

* `Spelling.place` is where a path leads, as far as its spelling alone tells.
* `Spelling.absolute` is the shortest spelling of that place from the root.
-/

namespace CredentialCheck

/-- A name in a directory. -/
abbrev FileName := List UInt8

/-- The name that a text spells. -/
def FileName.ofText (s : String) : FileName := Text.Utf8.encode s.toList

/-- The text that spells a name; nothing for a name that is not UTF-8. -/
def FileName.text (name : FileName) : String := String.ofList ((Text.Utf8.decode? name).getD [])

/-- The names that lead from the root to a place. -/
abbrev Path := List FileName

namespace Path

/-- The byte that stands between names. -/
def slash : UInt8 := 0x2F

/-- The path as a text from the root. -/
def text (path : Path) : String := "/" ++ "/".intercalate (path.map FileName.text)

/-- The path as bytes from the root. -/
def bytes (path : Path) : List UInt8 := slash :: [slash].intercalate path

/-- The parts of a spelled path between slashes; there is always one. -/
def parts : List UInt8 → List FileName
  | [] => [[]]
  | b :: bs =>
    match parts bs with
    | [] => [[b]]
    | part :: rest => if b = slash then [] :: part :: rest else (b :: part) :: rest

/-- Whether the part of a path stays where it is: an empty one, or a single dot. -/
def staysAt (part : FileName) : Bool := part == [] || part == [0x2E]

/-- Whether the part of a path goes back: two dots. -/
def goesBack (part : FileName) : Bool := part == [0x2E, 0x2E]

/-- The place behind the parts of a path, from another place on. -/
def walk (place : Path) : List FileName → Path
  | [] => place
  | part :: rest =>
    if staysAt part then walk place rest
    else if goesBack part then walk place.dropLast rest
    else walk (place ++ [part]) rest

/-- Where a place is when `source`, with everything below it, has been moved to `target`. -/
def moved (source target place : Path) : Path :=
  if source.isPrefixOf place then target ++ place.drop source.length else place

end Path

/-- A path as it is spelled. -/
inductive Spelling
  | text (s : String)
  | bytes (bs : List UInt8)
  deriving DecidableEq, Repr

namespace Spelling

/-- The bytes of the spelling. -/
def toBytes : Spelling → List UInt8
  | .text s => Text.Utf8.encode s.toList
  | .bytes bs => bs

/-- The spelling between quotation marks. -/
def literal : Spelling → String
  | .text s => Text.quoted s
  | .bytes bs => Text.quotedBytes bs

/-- The parts of the path between slashes. -/
def parts (p : Spelling) : List FileName := Path.parts p.toBytes

/-- Whether the path begins at the root. -/
def isAbsolute (p : Spelling) : Bool := p.toBytes.head? == some Path.slash

/-- Whether the path begins with two slashes and not with more, which a spelling keeps. -/
def hasTwoSlashes (p : Spelling) : Bool :=
  let slashes := p.toBytes.takeWhile (· == Path.slash)
  slashes.length == 2

/-- Where the path begins when `directory` is the working directory. -/
def start (directory : Path) (p : Spelling) : Path := if p.isAbsolute then [] else directory

/-- Where the path leads when `directory` is the working directory. -/
def place (directory : Path) (p : Spelling) : Path := Path.walk (p.start directory) p.parts

/-- The path from the root, without detours, spelled in the same form. -/
def absolute (directory : Path) (p : Spelling) : Spelling :=
  let place := p.place directory
  match p with
  | .text _ => .text ((if p.hasTwoSlashes then "/" else "") ++ place.text)
  | .bytes _ => .bytes ((if p.hasTwoSlashes then [Path.slash] else []) ++ place.bytes)

end Spelling

end CredentialCheck
