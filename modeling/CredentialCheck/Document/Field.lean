import CredentialCheck.Json.Reader
import CredentialCheck.Value.Render

/-!
# Reading the fields of a document

A document is read from a dictionary, field by field. A field has two spellings, and the one in
camel case wins; other entries are ignored. Reading goes on after a fault, so that all faults come
to light together, in the order of the fields (`Reading.both`).

* `readText`, `readTexts` and `readMapping` read the value of a field. In a dictionary in memory,
  bytes that are UTF-8 pass for a text, and a tuple or a set for a list; a JSON text is read
  strictly.
* `Key.read` looks a field up and reads its value.
* `Issue` is one fault: the rule that is broken, the place, and the value found there.
-/

namespace CredentialCheck.Document

/-! ## Issues -/

/-- The documents that can be read. -/
inductive Model
  | schema
  | credentialDefinition
  deriving DecidableEq, Repr

/-- The name of the document's type. -/
def Model.name : Model → String
  | .schema => "AnonCredsSchema"
  | .credentialDefinition => "CredentialDefinition"

/-- Where a dictionary comes from, which tells in what passes for a text or a list and in the
wording of an issue. -/
inductive Origin
  /-- A JSON text. -/
  | json
  /-- A dictionary in memory. -/
  | mapping
  deriving DecidableEq, Repr

/-- One part of the way to a value. -/
inductive Step
  | name (s : String)
  | number (n : Int)
  deriving DecidableEq, Repr

/-- The rules that a value can break. -/
inductive Rule
  | missing
  | text
  /-- Bytes in place of a text are UTF-8. -/
  | utf8
  | list
  | mapping
  /-- The whole input is a dictionary. -/
  | document (model : Model)
  /-- The whole input is JSON. -/
  | json (fault : Json.Fault)
  deriving DecidableEq, Repr

/-- The name of the rule. -/
def Rule.name : Rule → String
  | .missing => "missing"
  | .text => "string_type"
  | .utf8 => "string_unicode"
  | .list => "list_type"
  | .mapping => "dict_type"
  | .document _ => "model_type"
  | .json _ => "json_invalid"

/-- A broken rule. -/
structure Issue where
  rule : Rule
  location : List Step
  /-- The value found, or the dictionary in which one is missing. -/
  input : Value

/-- The bytes of a JSON text. -/
def textBytes : Value → List UInt8
  | .string s => Text.Utf8.encode s.toList
  | .bytes bs => bs
  | _ => []

/-- The issue in words. -/
def Issue.message (origin : Origin) (issue : Issue) : String :=
  match issue.rule, origin with
  | .missing, _ => "Field required"
  | .text, _ => "Input should be a valid string"
  | .utf8, _ => "Input should be a valid string, unable to parse raw data as a unicode string"
  | .list, .mapping => "Input should be a valid list"
  | .list, .json => "Input should be a valid array"
  | .mapping, .mapping => "Input should be a valid dictionary"
  | .mapping, .json => "Input should be an object"
  | .document model, .mapping =>
    "Input should be a valid dictionary or instance of " ++ model.name
  | .document _, .json => "Input should be an object"
  | .json fault, _ => "Invalid JSON: " ++ fault.message (textBytes issue.input)

/-! ## Readings -/

/-- A result, or all issues that prevent it. -/
abbrev Reading (α : Type) := Except (List Issue) α

/-- Two results; the issues of both are reported. -/
def Reading.both {α β : Type} (a : Reading α) (b : Reading β) : Reading (α × β) :=
  match a, b with
  | .ok x, .ok y => .ok (x, y)
  | .ok _, .error issues => .error issues
  | .error issues, .ok _ => .error issues
  | .error issues, .error more => .error (issues ++ more)

/-- A failure with one issue. -/
def issueAt {α : Type} (rule : Rule) (location : List Step) (input : Value) : Reading α :=
  .error [⟨rule, location, input⟩]

/-! ## Texts -/

/-- Bytes as a text. -/
def readBytes (location : List Step) (v : Value) (bs : List UInt8) : Reading String :=
  match Text.Utf8.decode? bs with
  | some s => .ok (String.ofList s)
  | none => issueAt .utf8 location v

/-- A text. -/
def readText (origin : Origin) (location : List Step) (v : Value) : Reading String :=
  match origin, v with
  | _, .string s => .ok s
  | .mapping, .bytes bs => readBytes location v bs
  | .mapping, .byteArray bs => readBytes location v bs
  | _, v => issueAt .text location v

/-! ## Lists of texts -/

/-- Texts, the first of which has the number `index`. -/
def readEach (origin : Origin) (location : List Step) :
    (index : Nat) → List Value → Reading (List String)
  | _, [] => .ok []
  | index, v :: vs =>
    ((readText origin (location ++ [.number index]) v).both
      (readEach origin location (index + 1) vs)).map fun (s, rest) => s :: rest

/-- A list of texts. -/
def readTexts (origin : Origin) (location : List Step) (v : Value) : Reading (List String) :=
  match origin, v with
  | origin, .list items => readEach origin location 0 items
  | .mapping, .tuple items => readEach .mapping location 0 items
  | .mapping, .set items => readEach .mapping location 0 items
  | _, v => issueAt .list location v

/-! ## Mappings -/

/-- A key as a part of a location: a number of 64 bits as such, any other key as text. -/
def keyStep (key : Value) : Step :=
  match key with
  | .bool b => .number (Value.ofBool b)
  | .integer n =>
    if -(Value.wordBound : Int) ≤ n ∧ n < Value.wordBound then .number n else .name key.display
  | v => .name v.display

/-- The entries with `value` under `key`: in the place of the same key, or at the end. -/
def putEntry (key : String) (value : Value) : List (String × Value) → List (String × Value)
  | [] => [(key, value)]
  | e :: es => if e.1 == key then (key, value) :: es else e :: putEntry key value es

/-- The entries with their keys as texts, one by one. -/
def readKeys (origin : Origin) (location : List Step) :
    List (Value × Value) → Reading (List (String × Value))
  | [] => .ok []
  | (k, v) :: es =>
    ((readText origin (location ++ [keyStep k, .name "[key]"]) k).both
      (readKeys origin location es)).map fun (key, rest) => (key, v) :: rest

/-- A dictionary with texts as keys. Of two keys that come to be the same text the later one
counts. -/
def readMapping (origin : Origin) (location : List Step) (v : Value) :
    Reading (List (String × Value)) :=
  match v with
  | .dict entries =>
    (readKeys origin location entries).map fun es =>
      es.foldl (fun acc e => putEntry e.1 e.2 acc) []
  | v => issueAt .mapping location v

/-! ## Fields by name -/

/-- The two spellings of a field. -/
structure Key where
  camel : String
  snake : String
  deriving DecidableEq, Repr

/-- The spelling under which a field is found, and its value. -/
def Key.find? (key : Key) (entries : List (Value × Value)) : Option (String × Value) :=
  match Value.lookup? entries (.string key.camel) with
  | some v => some (key.camel, v)
  | none => (Value.lookup? entries (.string key.snake)).map (key.snake, ·)

/-- The field of a dictionary, read by `reader`. A field that is not there takes its default; if
it has none, it is missing. -/
def Key.read {α : Type} (key : Key) (entries : List (Value × Value)) (default? : Option α)
    (reader : List Step → Value → Reading α) : Reading α :=
  match key.find? entries, default? with
  | some (spelling, v), _ => reader [.name spelling] v
  | none, some x => .ok x
  | none, none => issueAt .missing [.name key.camel] (.dict entries)

end CredentialCheck.Document
