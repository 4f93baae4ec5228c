import CredentialCheck.CommandLine.Options
import CredentialCheck.Settings

/-!
# Arguments of the command line

What a command line asks for. The options take effect from left to right, so the first thing wrong
decides. The values that are no option's stand together in one group; those of a second group, and
unknown options, are not accepted.

* `parse` reads a command line; `Stop` is why there is nothing to do.
-/

namespace CredentialCheck.CommandLine

/-- What a command line asks for. The values of options are loose values. -/
structure Arguments where
  identifiers : List String
  kind : Value
  schemas : List Value
  credentialDefinitions : List Value
  logLevel : Value
  logFile : Value

/-- Why nothing is checked. -/
inductive Stop
  /-- Help is asked for. -/
  | help
  | refused (r : Refusal)
  deriving DecidableEq, Repr

/-- Where the group of values stands that are no option's. -/
inductive Group
  | before
  | inside
  | behind
  deriving DecidableEq, Repr

/-- What has been read of a command line. -/
structure Reading where
  arguments : Arguments
  group : Group
  /-- What nobody has a use for. -/
  extras : List String

/-- What a command line asks for that says nothing. The level of the settings is one that a text
names. -/
def Arguments.initial (settings : Settings) : Arguments :=
  ⟨[], .string "any", [], [], .string (resolveLevelName settings.logLevel),
    if settings.logFile.isEmpty then .null else .string settings.logFile⟩

/-- Sets an option to a value, which has to be one of the choices. -/
def Arguments.set (a : Arguments) (o : Switch) (value : String) : Except Stop Arguments :=
  let v := Value.string value
  let chosen := match o.choices? with
    | some choices => if value ∈ choices then none else some (Refusal.badChoice o value choices)
    | none => none
  match chosen, o with
  | some r, _ => .error (.refused r)
  | none, .help => .error .help
  | none, .kind => .ok { a with kind := v }
  | none, .schema => .ok { a with schemas := a.schemas ++ [v] }
  | none, .credentialDefinition =>
    .ok { a with credentialDefinitions := a.credentialDefinitions ++ [v] }
  | none, .logLevel => .ok { a with logLevel := v }
  | none, .logFile => .ok { a with logFile := v }

/-- What the help option comes to with something attached to it. Its short spelling may be repeated,
and nobody looks at other letters behind it. -/
def helpWith (spelling attached : String) : Stop :=
  if spelling = "-h" then
    match attached.toList.dropWhile (· == 'h') with
    | '=' :: value => .refused (.valueIgnored (String.ofList value))
    | '-' :: value => .refused (.valueIgnored (String.ofList ('-' :: value)))
    | _ => .help
  else .refused (.valueIgnored attached)

namespace Reading

/-- One more value that is no option's. -/
def value (r : Reading) (v : String) : Reading :=
  match r.group with
  | .behind => { r with extras := r.extras ++ [v] }
  | _ =>
    { r with
      arguments := { r.arguments with identifiers := r.arguments.identifiers ++ [v] }
      group := .inside }

/-- An option ends the group of values. -/
def endGroup (r : Reading) : Reading :=
  { r with group := if r.group = .before then .before else .behind }

/-- Sets an option to a value. -/
def set (r : Reading) (o : Switch) (v : String) : Except Stop Reading :=
  (r.arguments.set o v).map fun arguments => { r.endGroup with arguments }

/-- Reads on. -/
def run (r : Reading) : List (Token × String) → Except Stop Reading
  | [] => .ok r
  | (.plain, v) :: rest => run (r.value v) rest
  | (.divider, v) :: rest => run (r.value v) rest
  | (.unknown, a) :: rest => run { r.endGroup with extras := r.extras ++ [a] } rest
  | (.option .help spelling attached, _) :: _ =>
    match attached with
    | some attached => .error (helpWith spelling attached)
    | none => .error .help
  | (.option o _ (some v), _) :: rest =>
    match r.set o v with
    | .error stop => .error stop
    | .ok r => run r rest
  | (.option o _ none, _) :: (.plain, v) :: rest =>
    match r.set o v with
    | .error stop => .error stop
    | .ok r => run r rest
  | (.option o _ none, _) :: _ => .error (.refused (.noValue o))

end Reading

/-- Whether there is anything to check. -/
def Arguments.isEmpty (a : Arguments) : Bool :=
  a.identifiers.isEmpty && a.schemas.isEmpty && a.credentialDefinitions.isEmpty

/-- The paths that a command line names: the documents, and the log file. -/
def Arguments.paths (a : Arguments) : List String :=
  (a.schemas ++ a.credentialDefinitions ++ [a.logFile]).filterMap fun v => match v with
    | .string path => some path
    | _ => none

/-- Reads a command line. The first divider in the group of values is left out. -/
def parse (settings : Settings) (argv : List String) : Except Stop Arguments :=
  match classifyAll argv with
  | .error r => .error (.refused r)
  | .ok tokens =>
    match Reading.run ⟨.initial settings, .before, []⟩ tokens with
    | .error stop => .error stop
    | .ok r =>
      let a := { r.arguments with identifiers := r.arguments.identifiers.erase "--" }
      if !r.extras.isEmpty then .error (.refused (.unrecognized r.extras))
      else if a.isEmpty then .error (.refused .nothingToValidate)
      else .ok a

end CredentialCheck.CommandLine
