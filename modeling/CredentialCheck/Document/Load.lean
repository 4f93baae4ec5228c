import CredentialCheck.Document.Verdict

/-!
# Loading a document

A document is loaded from a JSON text, from the bytes of one, or from a dictionary in memory: it
is read, and then judged.

* `parse` reads a document; `load` reads and judges it.
* `LoadFailure` is why there is no document: issues, or the verdict.
-/

namespace CredentialCheck

namespace Document

/-- Where a raw input comes from. -/
def originOf : Value → Origin
  | .string _ => .json
  | .bytes _ => .json
  | _ => .mapping

/-- Reads a document from a dictionary; nothing else will do. -/
def fromMapping (model : Model) (origin : Origin) (v : Value) : Reading Document :=
  match v with
  | .dict entries => model.readFields origin entries
  | v => issueAt (.document model) [] v

/-- Reads a document from the bytes of a JSON text. The whole text is read before any field is
looked at. `raw` is the text as it was given. -/
def fromJson (model : Model) (raw : Value) (bs : List UInt8) : Reading Document :=
  match Json.read .document bs with
  | .ok v => fromMapping model .json v
  | .error fault => issueAt (.json fault) [] raw

/-- Reads a document. -/
def parse (model : Model) (raw : Value) : Reading Document :=
  match raw with
  | .string _ => fromJson model raw (textBytes raw)
  | .bytes _ => fromJson model raw (textBytes raw)
  | v => fromMapping model .mapping v

end Document

open Document

/-- Why a document cannot be loaded. -/
inductive LoadFailure
  /-- It cannot be read. -/
  | unparsable (origin : Origin) (issues : List Issue)
  /-- It breaks a rule. -/
  | rejected (error : ValidationError)
  /-- It cannot be judged. -/
  | misuse (m : Misuse)

/-- A verdict as the end of loading. -/
def LoadFailure.ofVerdict {α : Type} (x : α) : Verdict → Except LoadFailure α
  | .error m => .error (.misuse m)
  | .ok (some e) => .error (.rejected e)
  | .ok none => .ok x

/-- Loads a document. -/
def load (model : Model) (raw : Value) : Except LoadFailure Document :=
  match parse model raw with
  | .error issues => .error (.unparsable (originOf raw) issues)
  | .ok d => LoadFailure.ofVerdict d d.verdict

end CredentialCheck
