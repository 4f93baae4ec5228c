import CredentialCheck.Document.Report

/-!
# Working on a document

A document in memory can be made, read, changed without a check, judged, and shown. `Session.step`
does one `Operation` on the present document, and `Session.run` does many. The failure of an
operation leaves the document alone.
-/

namespace CredentialCheck

namespace Document

/-! ## Operations -/

/-- Something to do with the present document. -/
inductive Operation
  /-- Make a new document of these fields. -/
  | make (fields : List (Value × Value))
  /-- Read a new document from a JSON text. -/
  | parse (json : Value)
  | set (field : String) (value : Value)
  | get (field : String)
  /-- Put a value at the end of a field that holds a list. -/
  | append (field : String) (value : Value)
  | verdict
  | isValid
  /-- The document itself if it is valid. -/
  | validateOrRaise
  | dump (camel : Bool)
  | literal
  /-- Compare with a new document of these fields. -/
  | equals (fields : List (Value × Value))
  /-- Load the document as it is. -/
  | reload

/-- The result of an operation. -/
inductive Result
  | done
  | truth (b : Bool)
  | value (v : Value)
  | text (s : String)
  | verdict (error : Option ValidationError)

/-- Why an operation fails. -/
inductive Failure
  /-- A value is not of the sort that would have the attribute; null stands for no document. -/
  | noAttribute (kind : Kind) (name : String)
  /-- The document has no such attribute. -/
  | unknownAttribute (model : Model) (name : String)
  /-- The document has no such field to assign to. -/
  | noField (model : Model) (name : String)
  | unreadable (model : Model) (origin : Origin) (issues : List Issue)
  | rejected (error : ValidationError)
  | misuse (m : Misuse)
  /-- The document cannot be loaded as it is. -/
  | load (model : Model) (failure : LoadFailure)
  /-- A byte is a number below 256. -/
  | byteRange
  | notAnInteger (kind : Kind)

/-- The failure in words; of issues, only the summary. -/
def Failure.message : Failure → String
  | .noAttribute kind name => (PathFault.noAttribute (.ofKind kind) name).message
  | .unknownAttribute model name =>
    Text.quoted model.name ++ " object has no attribute " ++ Text.quoted name
  | .noField model name => "\"" ++ model.name ++ "\" object has no field \"" ++ name ++ "\""
  | .misuse m => m.message
  | .byteRange => "byte must be in range(0, 256)"
  | .notAnInteger kind => Text.quoted kind.name ++ " object cannot be interpreted as an integer"
  | .unreadable model _ _ => unparsableText model
  | .rejected e => e.detail.display
  | .load model f => (f.validationError model).detail.display

/-- A value with another one at its end. -/
def appended (v item : Value) : Except Failure Value :=
  let byte (bs : List UInt8) (n : Int) : Except Failure Value :=
    if 0 ≤ n ∧ n < 256 then .ok (.byteArray (bs ++ [UInt8.ofNat n.toNat])) else .error .byteRange
  match v, item with
  | .list items, item => .ok (.list (items ++ [item]))
  | .byteArray bs, .integer n => byte bs n
  | .byteArray bs, .bool b => byte bs (Value.ofBool b)
  | .byteArray _, item => .error (.notAnInteger item.kind)
  | v, _ => .error (.noAttribute v.kind "append")

/-! ## Doing operations -/

/-- The present document, if there is one, and the model of documents made. -/
structure Session where
  model : Model
  current : Option Draft
  /-- Attributes of the present document beside its fields; their names begin with an underscore. -/
  notes : List (String × Value)

namespace Session

/-- The document, which is asked for an attribute. -/
def require (s : Session) (attr : String) : Except Failure Draft :=
  match s.current with
  | some d => .ok d
  | none => .error (.noAttribute .null attr)

/-- A field of the document, or a note on it. -/
def get (s : Session) (name : String) : Except Failure Value := do
  let d ← s.require name
  match (d.get? name).or (s.notes.lookup name) with
  | some v => return v
  | none => throw (.unknownAttribute d.model name)

/-- The document with another value of a field, or of a note. -/
def set (s : Session) (name : String) (v : Value) : Except Failure Session := do
  let d ← s.require name
  if name.startsWith "_" then
    return { s with notes := (name, v) :: s.notes.filter (·.1 ≠ name) }
  match d.set? name v with
  | some d => return { s with current := some d }
  | none => throw (.noField d.model name)

/-- A document of a raw input, in which the issues are those of the reader alone. -/
def read (s : Session) (raw : Value) : Except Failure Draft :=
  match Document.parse s.model raw with
  | .ok d => .ok d.draft
  | .error issues => .error (.unreadable s.model (originOf raw) issues)

/-- The verdict on the document. -/
def judge (s : Session) (attr : String) : Except Failure (Option ValidationError) := do
  let d ← s.require attr
  match d.verdict with
  | .ok verdict => return verdict
  | .error m => throw (.misuse m)

/-- Loading the document as it is: it is judged, not read again. -/
def reload (s : Session) : Except Failure Unit :=
  match s.current with
  | none => .error (.load s.model (.unparsable .mapping [⟨.document s.model, [], .null⟩]))
  | some d =>
    match LoadFailure.ofVerdict () d.verdict with
    | .ok () => .ok ()
    | .error f => .error (.load s.model f)

/-- Does one operation: its result and the present document afterwards. -/
def step (s : Session) (op : Operation) : Except Failure (Result × Session) :=
  match op with
  | .make fields => do
    let d ← s.read (.dict fields)
    return (.done, { s with current := some d, notes := [] })
  | .parse json => do
    let d ← s.read json
    return (.done, { s with current := some d, notes := [] })
  | .set name v => do return (.done, ← s.set name v)
  | .get name => do return (.value (← s.get name), s)
  | .append name item => do
    let v ← appended (← s.get name) item
    return (.done, ← s.set name v)
  | .verdict => do return (.verdict (← s.judge "validate"), s)
  | .isValid => do return (.truth (← s.judge "is_valid").isNone, s)
  | .validateOrRaise => do
    match ← s.judge "validate_or_raise" with
    | none => return (.truth true, s)
    | some e => throw (.rejected e)
  | .dump camel => do return (.value ((← s.require "model_dump").dump camel), s)
  | .literal => return (.text ((s.current.map Draft.literal).getD Value.null.literal), s)
  | .equals fields => do
    let d ← s.read (.dict fields)
    return (.truth ((s.current.map fun c => c.equal d).getD false), s)
  | .reload => do
    s.reload
    return (.truth true, s)

/-- Does operations in order: the result of each, and the session afterwards. -/
def run (s : Session) : List Operation → List (Except Failure Result) × Session
  | [] => ([], s)
  | op :: ops =>
    match s.step op with
    | .ok (result, next) =>
      let (results, final) := run next ops
      (.ok result :: results, final)
    | .error failure =>
      let (results, final) := run s ops
      (.error failure :: results, final)

end Session

end Document

end CredentialCheck
