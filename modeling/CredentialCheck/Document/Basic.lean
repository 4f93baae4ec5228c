import CredentialCheck.Document.Field

/-!
# Schemas and credential definitions

The two documents: a schema names the attributes that credentials can have, and a credential
definition is an issuer's offer of credentials for a schema.

* `Schema` and `CredentialDefinition` are the documents as they have been read.
* `SchemaDraft` and `CredentialDefinitionDraft` are documents whose fields may hold anything, as
  after an assignment that nobody has checked. A document is a draft (`Document.draft`).
* `Model.readFields` reads a document of either kind from a dictionary.
-/

namespace CredentialCheck

open Document

/-! ## The documents -/

/-- A schema. -/
structure Schema where
  issuerId : String
  name : String
  version : String
  attrNames : List String
  deriving DecidableEq

/-- A credential definition. -/
structure CredentialDefinition where
  schemaId : String
  issuerId : String
  tag : String
  type : String
  /-- The keys of the issuer, of which nothing is assumed. -/
  value : List (String × Value)

/-- A schema whose fields may hold anything. -/
structure SchemaDraft where
  issuerId : Value
  name : Value
  version : Value
  attrNames : Value

/-- A credential definition whose fields may hold anything. -/
structure CredentialDefinitionDraft where
  schemaId : Value
  issuerId : Value
  tag : Value
  type : Value
  value : Value

/-- The signature type that credential definitions have. -/
def signatureType : String := "CL"

namespace Document

/-! ## Reading the fields -/

/-- The spellings of the issuer's identifier. -/
def issuerIdKey : Key := ⟨"issuerId", "issuer_id"⟩

/-- The spellings of the schema's identifier. -/
def schemaIdKey : Key := ⟨"schemaId", "schema_id"⟩

/-- The spellings of the attribute names. -/
def attrNamesKey : Key := ⟨"attrNames", "attr_names"⟩

/-- A field of one word, which is spelled in one way. -/
def plainKey (name : String) : Key := ⟨name, name⟩

/-- Reads a schema. -/
def readSchema (origin : Origin) (entries : List (Value × Value)) : Reading Schema :=
  ((issuerIdKey.read entries none (readText origin)).both
    (((plainKey "name").read entries none (readText origin)).both
      (((plainKey "version").read entries none (readText origin)).both
        (attrNamesKey.read entries (some []) (readTexts origin))))).map
    fun (issuerId, name, version, attrNames) => ⟨issuerId, name, version, attrNames⟩

/-- Reads a credential definition. -/
def readCredentialDefinition (origin : Origin) (entries : List (Value × Value)) :
    Reading CredentialDefinition :=
  ((schemaIdKey.read entries none (readText origin)).both
    ((issuerIdKey.read entries none (readText origin)).both
      (((plainKey "tag").read entries none (readText origin)).both
        (((plainKey "type").read entries (some signatureType) (readText origin)).both
          ((plainKey "value").read entries (some []) (readMapping origin)))))).map
    fun (schemaId, issuerId, tag, type, value) => ⟨schemaId, issuerId, tag, type, value⟩

end Document

/-! ## Documents and drafts -/

/-- A document of either kind. -/
inductive Document
  | schema (s : Schema)
  | credentialDefinition (c : CredentialDefinition)

/-- A draft of either kind. -/
inductive Draft
  | schema (d : SchemaDraft)
  | credentialDefinition (d : CredentialDefinitionDraft)

/-- The schema as a draft. -/
def Schema.draft (s : Schema) : SchemaDraft :=
  ⟨.string s.issuerId, .string s.name, .string s.version, .list (s.attrNames.map .string)⟩

/-- The credential definition as a draft. -/
def CredentialDefinition.draft (c : CredentialDefinition) : CredentialDefinitionDraft :=
  ⟨.string c.schemaId, .string c.issuerId, .string c.tag, .string c.type,
    .dict (c.value.map fun e => (.string e.1, e.2))⟩

/-- The document as a draft. -/
def Document.draft : Document → Draft
  | .schema s => .schema s.draft
  | .credentialDefinition c => .credentialDefinition c.draft

namespace Document

/-- Reads a document of the model. -/
def Model.readFields (model : Model) (origin : Origin) (entries : List (Value × Value)) :
    Reading Document :=
  match model with
  | .schema => (readSchema origin entries).map .schema
  | .credentialDefinition =>
    (readCredentialDefinition origin entries).map .credentialDefinition

end Document

namespace Draft

/-! ## Looking at a draft -/

/-- The model of a draft. -/
def model : Draft → Model
  | .schema _ => .schema
  | .credentialDefinition _ => .credentialDefinition

/-- The fields of a draft in their order. -/
def fields : Draft → List (Key × Value)
  | .schema d =>
    [(issuerIdKey, d.issuerId), (plainKey "name", d.name), (plainKey "version", d.version),
      (attrNamesKey, d.attrNames)]
  | .credentialDefinition d =>
    [(schemaIdKey, d.schemaId), (issuerIdKey, d.issuerId), (plainKey "tag", d.tag),
      (plainKey "type", d.type), (plainKey "value", d.value)]

/-- The field of a name, which is the spelling in snake case. -/
def get? (d : Draft) (name : String) : Option Value :=
  (d.fields.find? fun f => f.1.snake == name).map Prod.snd

/-- The draft with another value in the field of a name, if it has that field. -/
def set? (d : Draft) (name : String) (v : Value) : Option Draft :=
  match d, name with
  | .schema d, "issuer_id" => some (.schema { d with issuerId := v })
  | .schema d, "name" => some (.schema { d with name := v })
  | .schema d, "version" => some (.schema { d with version := v })
  | .schema d, "attr_names" => some (.schema { d with attrNames := v })
  | .credentialDefinition d, "schema_id" => some (.credentialDefinition { d with schemaId := v })
  | .credentialDefinition d, "issuer_id" => some (.credentialDefinition { d with issuerId := v })
  | .credentialDefinition d, "tag" => some (.credentialDefinition { d with tag := v })
  | .credentialDefinition d, "type" => some (.credentialDefinition { d with type := v })
  | .credentialDefinition d, "value" => some (.credentialDefinition { d with value := v })
  | _, _ => none

/-- The draft as a dictionary, in camel case or in snake case. -/
def dump (d : Draft) (camel : Bool) : Value :=
  .dict (d.fields.map fun f => (.string (if camel then f.1.camel else f.1.snake), f.2))

/-- The draft as a literal. -/
def literal (d : Draft) : String :=
  d.model.name ++ "(" ++
    ", ".intercalate (d.fields.map fun f => f.1.snake ++ "=" ++ f.2.literal) ++ ")"

/-- Equality of drafts: the same model and equal fields. -/
def equal (a b : Draft) : Bool :=
  a.model == b.model &&
    Value.equalLists (a.fields.map Prod.snd) (b.fields.map Prod.snd)

end Draft

end CredentialCheck
