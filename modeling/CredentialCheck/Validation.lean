import CredentialCheck.Identifier
import CredentialCheck.ValidationError

/-!
# The contract of validation

Data that come from outside can be asked for a verdict: no error, or the error that says what is
wrong. From the verdict follow whether the data are valid, and the form in which they are returned
themselves or the error is raised.

* `Validatable` is a check of data of one type; `Validatable.unchecked` accepts all data.
* `issuerCheck` and `fixedCheck` are two small checks of a loose value.
-/

namespace CredentialCheck

/-- A way to check data. Building an error from a template may fail. -/
structure Validatable (α : Type) where
  validate : α → Except Template.Fault (Option ValidationError)

namespace Validatable

variable {α : Type}

/-- The check that accepts everything. -/
def unchecked : Validatable α := ⟨fun _ => .ok none⟩

/-- Whether the data are valid. -/
def isValid (check : Validatable α) (x : α) : Except Template.Fault Bool :=
  (check.validate x).map Option.isNone

/-- The data themselves if they are valid, the error otherwise. -/
def validateOrRaise (check : Validatable α) (x : α) :
    Except Template.Fault (Except ValidationError α) :=
  (check.validate x).map fun verdict =>
    match verdict with
    | none => .ok x
    | some e => .error e

end Validatable

/-- Accepts a URI as an issuer. -/
def issuerCheck : Validatable Value :=
  ⟨fun v =>
    if Identifier.isUri v then .ok none
    else (ValidationError.make (.string "Invalid issuer id: \x7b\x7d") ⟨[v], []⟩).map some⟩

/-- Accepts one text only; any other value is the message of the error. -/
def fixedCheck : Validatable Value :=
  ⟨fun v =>
    if v.equal (.string "ok") then .ok none
    else (ValidationError.make v ⟨[], []⟩).map some⟩

end CredentialCheck
