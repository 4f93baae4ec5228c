import CredentialCheck.Text.DecimalDigit
import CredentialCheck.Text.Quoted

/-!
# Options of the command line

The options with their spellings, and what a single argument is taken for: an option, an argument
of its own, or the mark `--` behind which no argument is an option.

* An option may be written by any beginning of its long spelling that no other option shares, and
  its value may be attached behind an equals sign.
* What begins with a hyphen is no option if it is a negative number or holds a space, or if it is
  a hyphen alone.
* `Refusal` is why a command line is not accepted.
-/

namespace CredentialCheck.CommandLine

/-! ## The options -/

/-- The options. -/
inductive Switch
  | help
  | kind
  | schema
  | credentialDefinition
  | logLevel
  | logFile
  deriving DecidableEq, Repr

/-- The spellings of all options, in the order in which they are listed. -/
def spellings : List (String × Switch) :=
  [("-h", .help), ("--help", .help), ("--kind", .kind), ("--schema", .schema),
    ("--cred-def", .credentialDefinition), ("--log-level", .logLevel), ("--log-file", .logFile)]

/-- The option as messages call it. -/
def Switch.name (o : Switch) : String :=
  "/".intercalate ((spellings.filter (·.2 == o)).map Prod.fst)

/-- The values that an option can have, if they are limited. -/
def Switch.choices? : Switch → Option (List String)
  | .kind => some ["any", "uri", "legacy"]
  | .logLevel => some ["DEBUG", "INFO", "WARNING", "ERROR", "CRITICAL"]
  | _ => none

/-! ## Refusals -/

/-- Why a command line is not accepted. -/
inductive Refusal
  | ambiguous (argument : String) (matching : List String)
  | noValue (o : Switch)
  /-- The help option has no value. -/
  | valueIgnored (value : String)
  | badChoice (o : Switch) (value : String) (choices : List String)
  | unrecognized (arguments : List String)
  | nothingToValidate
  deriving DecidableEq, Repr

/-- The refusal in words. -/
def Refusal.message : Refusal → String
  | .ambiguous argument matching =>
    "ambiguous option: " ++ argument ++ " could match " ++ ", ".intercalate matching
  | .noValue o => "argument " ++ o.name ++ ": expected one argument"
  | .valueIgnored value =>
    "argument " ++ Switch.help.name ++ ": ignored explicit argument " ++ Text.quoted value
  | .badChoice o value choices =>
    "argument " ++ o.name ++ ": invalid choice: " ++ Text.quoted value ++ " (choose from " ++
      ", ".intercalate (choices.map Text.quoted) ++ ")"
  | .unrecognized arguments => "unrecognized arguments: " ++ " ".intercalate arguments
  | .nothingToValidate => "nothing to validate: pass identifiers, --schema or --cred-def"

/-! ## What an argument is -/

/-- What an argument is taken for. -/
inductive Token
  /-- A value. -/
  | plain
  /-- The mark behind which everything is a value. -/
  | divider
  /-- An option, the spelling it was recognized by, and what is attached to it: behind the equals
  sign of a long spelling, or behind a short one. -/
  | option (o : Switch) (spelling : String) (attached : Option String)
  /-- Something that looks like an option. -/
  | unknown
  deriving DecidableEq, Repr

/-- Whether the text is a negative number, which a line feed may follow. -/
def isNegativeNumber (s : List Char) : Bool :=
  match s with
  | '-' :: s =>
    let s := if s.getLast? = some '\n' then s.dropLast else s
    let (whole, rest) := s.span Text.isDecimalDigit
    match rest with
    | [] => !whole.isEmpty
    | '.' :: places => !places.isEmpty && places.all Text.isDecimalDigit
    | _ => false
  | _ => false

/-- The text in front of the first equals sign and the one behind it, if there is one. -/
def splitAtEquals (s : List Char) : List Char × Option (List Char) :=
  match s.span (· ≠ '=') with
  | (name, _ :: value) => (name, some value)
  | (name, []) => (name, none)

/-- The options that an argument that is not spelled out may stand for. -/
def candidates (s : List Char) : List (Switch × String × Option String) :=
  match s with
  | '-' :: '-' :: _ =>
    let (name, value) := splitAtEquals s
    spellings.filterMap fun (spelling, o) =>
      if name.isPrefixOf spelling.toList then some (o, spelling, value.map String.ofList) else none
  | '-' :: c :: attached =>
    spellings.filterMap fun (spelling, o) =>
      if spelling.toList = ['-', c] then some (o, spelling, some (String.ofList attached))
      else none
  | _ => []

/-- What an argument is taken for, when no divider is in front of it. -/
def classify (argument : String) : Except Refusal Token :=
  let s := argument.toList
  if s = ['-', '-'] then .ok .divider
  else if s.head? ≠ some '-' then .ok .plain
  else
    match spellings.lookup argument with
    | some o => .ok (.option o argument none)
    | none =>
      if s.length = 1 then .ok .plain
      else
        let (name, value) := splitAtEquals s
        match s, value, spellings.lookup (String.ofList name) with
        | '-' :: '-' :: _, some value, some o =>
          .ok (.option o (String.ofList name) (some (String.ofList value)))
        | _, _, _ =>
          match candidates s with
          | [(o, spelling, attached)] => .ok (.option o spelling attached)
          | c :: d :: more => .error (.ambiguous argument ((c :: d :: more).map (·.2.1)))
          | [] =>
            if isNegativeNumber s ∨ ' ' ∈ s then .ok .plain else .ok .unknown

/-- What the arguments are taken for. -/
def classifyAll : List String → Except Refusal (List (Token × String))
  | [] => .ok []
  | a :: as =>
    match classify a with
    | .error r => .error r
    | .ok .divider => .ok ((.divider, a) :: as.map (.plain, ·))
    | .ok token => (classifyAll as).map ((token, a) :: ·)

end CredentialCheck.CommandLine
