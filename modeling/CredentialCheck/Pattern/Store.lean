import CredentialCheck.Pattern.FirstUse

/-!
# Cells in use

The two shared cells, for identifiers that are URIs and for legacy identifiers, beside any number
of named ones, and the steps that use them.

* `Shared` holds the two shared cells. `Shared.isUri` and its kin are the tests of identifiers as
  uses of these cells: they answer, and may compile and announce a pattern on the way.
* `Store` adds the named cells; `Store.step` does one `Step` and `Store.run` many.
-/

namespace CredentialCheck.Pattern

/-! ## The shared cells -/

/-- The expression of URI identifiers: a scheme, a colon, and anything behind it. -/
def uriExpression : String := "[a-zA-Z0-9+\\-.]+:.+"

/-- The expression of legacy identifiers: 21 or 22 characters of the base 58 alphabet. -/
def legacyExpression : String := "[1-9A-HJ-NP-Za-km-z]\x7b21,22\x7d"

/-- The flags of the expression of URI identifiers: a line feed may stand behind the colon. -/
def uriFlags : Flags := ⟨false, true⟩

/-- The two shared cells. -/
structure Shared where
  uri : Cell
  legacy : Cell

namespace Shared

/-- The shared cells before their first use. -/
def fresh : Shared :=
  ⟨.fresh (.string uriExpression) uriFlags, .fresh (.string legacyExpression) .none⟩

/-- Whether a use of a cell ended in a match. -/
def matched : Except Failure (Option Nat) → Bool
  | .ok (some _) => true
  | _ => false

/-- Whether a value is a URI identifier. Only a text makes use of the cell. -/
def isUri (s : Shared) : Value → Bool × Shared × List String
  | .string t =>
    let (result, cell, log) := s.uri.fullmatch (.string t)
    (matched result, { s with uri := cell }, log)
  | _ => (false, s, [])

/-- Whether a value is a legacy identifier. Only a text makes use of the cell. -/
def isLegacy (s : Shared) : Value → Bool × Shared × List String
  | .string t =>
    let (result, cell, log) := s.legacy.fullmatch (.string t)
    (matched result, { s with legacy := cell }, log)
  | _ => (false, s, [])

/-- Whether a value is an identifier of either form. The second test is made only if the first
fails. -/
def isIdentifier (s : Shared) (v : Value) : Bool × Shared × List String :=
  match s.isUri v with
  | (true, s, log) => (true, s, log)
  | (false, s, log) =>
    let (found, s, more) := s.isLegacy v
    (found, s, log ++ more)

end Shared

/-! ## Steps -/

/-- The shared cells and those that were made under a name. -/
structure Store where
  shared : Shared
  named : List (String × Cell)

/-- A use of the store. -/
inductive Step
  | make (name : String) (expression : Value) (flags : Flags)
  | isCompiled (name : String)
  | text (name : String)
  | attributes (name : String)
  | get (name : String)
  | fullmatch (name : String) (value : Value)
  /-- Several threads ask for the pattern at once. -/
  | getAtOnce (name : String) (threads : Nat)
  | isUri (value : Value)
  | isLegacy (value : Value)
  | isIdentifier (value : Value)

/-- What a step answers. -/
inductive Answer
  | done
  | truth (b : Bool)
  | text (s : String)
  | attributes (expression : Value) (flags : Flags)
  /-- The text that the pattern was compiled from. -/
  | pattern (source : String)
  /-- The number of characters matched. -/
  | matched (length : Option Nat)
  /-- How many threads got a pattern, and how many different ones. -/
  | objects (results distinct : Nat)

/-- Why a step fails. -/
inductive StepFailure
  | noSuchCell (name : String)
  | pattern (failure : Failure)

namespace Store

/-! ## The store -/

/-- The store before anything has happened. -/
def fresh : Store := ⟨.fresh, []⟩

/-- The cell of a name. The shared cells have the names `URI` and `LEGACY`, until one is made
under the same name. -/
def find? (s : Store) (name : String) : Option Cell :=
  match s.named.find? (·.1 == name) with
  | some entry => some entry.2
  | none =>
    if name = "URI" then some s.shared.uri
    else if name = "LEGACY" then some s.shared.legacy
    else none

/-- The entries with the cell under the name, in place of one that is there. -/
def putNamed (name : String) (cell : Cell) : List (String × Cell) → List (String × Cell)
  | [] => [(name, cell)]
  | e :: es => if e.1 == name then (name, cell) :: es else e :: putNamed name cell es

/-- The store with a new cell under the name. -/
def make (s : Store) (name : String) (cell : Cell) : Store :=
  { s with named := putNamed name cell s.named }

/-- The store after a use of the cell of a name has left it as `cell`. -/
def update (s : Store) (name : String) (cell : Cell) : Store :=
  if s.named.any (·.1 == name) then s.make name cell
  else if name = "URI" then { s with shared.uri := cell }
  else if name = "LEGACY" then { s with shared.legacy := cell }
  else s

/-- Several threads use a cell at once; those that fail get nothing. They take their turns one by
one, as good as any other way (`getAtOnce_eq_of_isDone`). -/
def getAtOnce (c : Cell) (threads : Nat) : Answer × Cell × List String :=
  let final := (FirstUse.Config.ofCell c threads).run (FirstUse.Config.oneByOne threads)
  (.objects final.results.length final.results.eraseDups.length, final.cell, final.log)

/-- Uses the cell of a name, if there is one. -/
def onCell (s : Store) (name : String)
    (use : Cell → Except Failure Answer × Cell × List String) :
    Except StepFailure Answer × Store × List String :=
  match s.find? name with
  | none => (.error (.noSuchCell name), s, [])
  | some cell =>
    let (result, cell, log) := use cell
    (result.mapError .pattern, s.update name cell, log)

/-- Does one step: the answer, the store afterwards, and the announcements made. -/
def step (s : Store) : Step → Except StepFailure Answer × Store × List String
  | .make name expression flags => (.ok .done, s.make name (.fresh expression flags), [])
  | .isCompiled name => s.onCell name fun c => (.ok (.truth c.isCompiled), c, [])
  | .text name => s.onCell name fun c => (.ok (.text c.text), c, [])
  | .attributes name => s.onCell name fun c => (.ok (.attributes c.expression c.flags), c, [])
  | .get name => s.onCell name fun c =>
    let (result, c, log) := c.get
    (result.map fun p => .pattern p.source, c, log)
  | .fullmatch name v => s.onCell name fun c =>
    let (result, c, log) := c.fullmatch v
    (result.map .matched, c, log)
  | .getAtOnce name n => s.onCell name fun c =>
    let (answer, c, log) := getAtOnce c n
    (.ok answer, c, log)
  | .isUri v =>
    let (found, shared, log) := s.shared.isUri v
    (.ok (.truth found), { s with shared }, log)
  | .isLegacy v =>
    let (found, shared, log) := s.shared.isLegacy v
    (.ok (.truth found), { s with shared }, log)
  | .isIdentifier v =>
    let (found, shared, log) := s.shared.isIdentifier v
    (.ok (.truth found), { s with shared }, log)

/-- Does steps in order: the answer and the announcements of each, and the store afterwards. -/
def run (s : Store) : List Step → List (Except StepFailure Answer × List String) × Store
  | [] => ([], s)
  | step :: steps =>
    let (answer, next, log) := s.step step
    let (answers, final) := run next steps
    ((answer, log) :: answers, final)

end Store

end CredentialCheck.Pattern
