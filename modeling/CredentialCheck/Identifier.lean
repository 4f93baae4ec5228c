import CredentialCheck.Pattern.Store
import CredentialCheck.Value.Equality

/-!
# Identifiers

The two forms in which an issuer, a schema or a credential definition is named: a URI (a scheme,
a colon, and anything behind it), and the legacy form of 21 or 22 characters of the base 58
alphabet. Only texts are identifiers.

* `isUri`, `isLegacy` and `isIdentifier` are the tests.
* `classify` names the form, and `accepts` says whether an identifier has a form asked for.
-/

namespace CredentialCheck.Identifier

open Pattern

/-- Whether an expression, if it can be read, describes the whole value, which is a text. -/
def fits (expression : String) (flags : Flags) (v : Value) : Bool :=
  match compile (.string expression) flags, v with
  | .ok p, .string s => p.expression.matchesWhole p.flags s.toList
  | _, _ => false

/-- Whether the value is a URI identifier. -/
def isUri (v : Value) : Bool := fits uriExpression uriFlags v

/-- Whether the value is a legacy identifier. -/
def isLegacy (v : Value) : Bool := fits legacyExpression .none v

/-- Whether the value is an identifier of either form. -/
def isIdentifier (v : Value) : Bool := isUri v || isLegacy v

/-- The form of an identifier. -/
inductive Form
  | uri
  | legacy
  | invalid
  deriving DecidableEq, Repr

/-- The form as reports call it. -/
def Form.name : Form → String
  | .uri => "uri"
  | .legacy => "legacy"
  | .invalid => "invalid"

/-- The form of a value. -/
def classify (v : Value) : Form :=
  if isUri v then .uri else if isLegacy v then .legacy else .invalid

/-- Whether a value is an identifier of the form that `asked` names, or of any form if it names
any. -/
def accepts (v asked : Value) : Bool :=
  match classify v with
  | .invalid => false
  | form => asked.equal (.string "any") || asked.equal (.string form.name)

end CredentialCheck.Identifier
