import CredentialCheck.Document.Basic
import CredentialCheck.Identifier
import CredentialCheck.ValidationError

/-!
# The verdict on a document

The rules of the two documents, in the order in which they are asked; the first that is broken
gives the error. A schema has an identifier as its issuer, at least one attribute, and no attribute
twice. A credential definition has identifiers for its schema and its issuer, and the one known
signature type.

The rules are stated for drafts, whose fields may hold anything: values of any sort are shown in
the messages, and collecting the attributes may fail (`Misuse`). They are stated with any test of
identifiers, which may keep account of its uses; `Draft.verdict` takes the plain one.
-/

namespace CredentialCheck

/-- Why a draft cannot even be judged. -/
inductive Misuse
  | template (fault : Template.Fault)
  /-- The attributes are no collection. -/
  | notIterable (kind : Kind)
  /-- An attribute cannot be a key. -/
  | unhashable (kind : Kind)

/-- The failure in words. -/
def Misuse.message : Misuse → String
  | .template fault => fault.message
  | .notIterable kind => Text.quoted kind.name ++ " object is not iterable"
  | .unhashable kind => "unhashable type: " ++ Text.quoted kind.name

/-- The elements of a collection: the characters of a text, the numbers of bytes, the keys of a
dictionary. -/
def Value.elements (v : Value) : Except Misuse (List Value) :=
  match v with
  | .string s => .ok (s.toList.map fun c => .string (String.ofList [c]))
  | .bytes bs => .ok (bs.map fun b => .integer b.toNat)
  | .byteArray bs => .ok (bs.map fun b => .integer b.toNat)
  | .tuple items => .ok items
  | .set items => .ok items
  | .list items => .ok items
  | .dict entries => .ok (entries.map Prod.fst)
  | v => .error (.notIterable v.kind)

/-- Whether an element of a collection occurs twice: there are fewer distinct ones than elements.
The elements have to be keys. -/
def Value.repeatsElement (v : Value) : Except Misuse Bool :=
  match v.elements with
  | .error m => .error m
  | .ok items =>
    match Value.unhashableAmong? items with
    | some kind => .error (.unhashable kind)
    | none => .ok ((Value.distinct items).length != items.length)

/-- The result of asking the rules: no error if all are kept. -/
abbrev Verdict := Except Misuse (Option ValidationError)

/-- An error with the template filled in. -/
def Verdict.reject (template : String) (args : List Value) : Verdict :=
  match ValidationError.make (.string template) ⟨args, []⟩ with
  | .ok e => .ok (some e)
  | .error fault => .error (.template fault)

section

variable {m : Type → Type} [Monad m]

/-- The verdict on a schema. -/
def SchemaDraft.verdictWith (isIdentifier : Value → m Bool) (d : SchemaDraft) : m Verdict := do
  if !(← isIdentifier d.issuerId) then
    return Verdict.reject "Invalid issuer id: \x7b\x7d" [d.issuerId]
  if !d.attrNames.isTruthy then
    return Verdict.reject "Schema must declare at least one attribute" []
  return d.attrNames.repeatsElement.bind fun repeated =>
    if repeated then Verdict.reject "Duplicate attribute names in schema \x7b\x7d" [d.name]
    else .ok none

/-- The verdict on a credential definition. -/
def CredentialDefinitionDraft.verdictWith (isIdentifier : Value → m Bool)
    (d : CredentialDefinitionDraft) : m Verdict := do
  if !(← isIdentifier d.schemaId) then
    return Verdict.reject "Invalid schema id: \x7b\x7d" [d.schemaId]
  if !(← isIdentifier d.issuerId) then
    return Verdict.reject "Invalid issuer id: \x7b\x7d" [d.issuerId]
  if !d.type.equal (.string signatureType) then
    return Verdict.reject "Unsupported signature type: \x7b\x7d" [d.type]
  return .ok none

/-- The verdict on a draft. -/
def Draft.verdictWith (isIdentifier : Value → m Bool) : Draft → m Verdict
  | .schema d => d.verdictWith isIdentifier
  | .credentialDefinition d => d.verdictWith isIdentifier

end

/-- The verdict on a draft, by the plain test of identifiers. -/
def Draft.verdict (d : Draft) : Verdict := Id.run (d.verdictWith fun v => Identifier.isIdentifier v)

/-- The verdict on a document. -/
def Document.verdict (d : Document) : Verdict := d.draft.verdict

end CredentialCheck
