import CredentialCheck.Template.Fault

/-!
# The parts of a template

A template is text with fields in braces; a doubled brace is a brace of the text. A field has a
name and, behind it, a conversion (`!r`) and a layout (`:>8`), which may hold fields itself.

* `scan` cuts a template into pieces. What is wrong with the form of the template is the last
  piece, so that it comes to light only when the pieces in front of it have been dealt with.
-/

namespace CredentialCheck.Template

/-- A field as it is written. -/
structure Field where
  /-- The name and the path behind it. -/
  name : List Char
  conversion : Option Char
  /-- The layout. -/
  spec : List Char
  deriving DecidableEq, Repr

/-- A piece of a template. -/
inductive Piece
  | literal (text : List Char)
  | field (f : Field)
  | broken (fault : Fault)

/-- The text in front of the first brace, and the rest from that brace on. -/
def takeLiteral (s : List Char) : List Char × List Char :=
  s.span fun c => c ≠ '{' ∧ c ≠ '}'

/-- The name of a field up to the mark that ends it; the mark and the rest. Marks between brackets
count as part of the name. -/
def takeName : (inBrackets : Bool) → List Char → Except Fault (List Char × Char × List Char)
  | _, [] => .error .unclosedField
  | true, c :: s => (takeName (c ≠ ']') s).map fun (name, rest) => (c :: name, rest)
  | false, c :: s =>
    if c = '{' then .error .braceInName
    else if c = '}' ∨ c = ':' ∨ c = '!' then .ok ([], c, s)
    else (takeName (c = '[') s).map fun (name, rest) => (c :: name, rest)

/-- A layout up to the brace that closes the field, when `depth` braces are open inside it. -/
def takeSpec : (depth : Nat) → List Char → Except Fault (List Char × List Char)
  | _, [] => .error .unclosedSpec
  | depth, c :: s =>
    if c = '}' then
      match depth with
      | 0 => .ok ([], s)
      | depth + 1 => (takeSpec depth s).map fun (spec, rest) => (c :: spec, rest)
    else
      (takeSpec (if c = '{' then depth + 1 else depth) s).map fun (spec, rest) => (c :: spec, rest)

/-- A field from behind its opening brace, and the rest behind its closing one. -/
def takeField (s : List Char) : Except Fault (Field × List Char) := do
  let (name, mark, s) ← takeName false s
  if mark = '}' then return (⟨name, none, []⟩, s)
  else if mark = ':' then
    let (spec, s) ← takeSpec 0 s
    return (⟨name, none, spec⟩, s)
  else
    match s with
    | [] => throw .endInConversion
    | conversion :: s =>
      match s with
      | [] => throw .unclosedSpec
      | '}' :: s => return (⟨name, some conversion, []⟩, s)
      | ':' :: s =>
        let (spec, s) ← takeSpec 0 s
        return (⟨name, some conversion, spec⟩, s)
      | _ => throw .noColonAfterConversion

/-- The pieces of a template; each takes up a character at least, so `fuel` for every character
suffices. -/
def scanFrom : (fuel : Nat) → List Char → List Piece
  | 0, _ => []
  | _, [] => []
  | fuel + 1, '{' :: s =>
    match s with
    | [] => [.broken .loneOpenBrace]
    | '{' :: s => .literal ['{'] :: scanFrom fuel s
    | s =>
      match takeField s with
      | .ok (f, s) => .field f :: scanFrom fuel s
      | .error fault => [.broken fault]
  | fuel + 1, '}' :: s =>
    match s with
    | '}' :: s => .literal ['}'] :: scanFrom fuel s
    | _ => [.broken .loneCloseBrace]
  | fuel + 1, s =>
    let (text, rest) := takeLiteral s
    .literal text :: scanFrom fuel rest

/-- The pieces of a template. -/
def scan (s : List Char) : List Piece := scanFrom s.length s

end CredentialCheck.Template
