import CredentialCheck.Template.Fill

/-!
# Validation errors

What a check reports about data that break a rule. An error may carry a detail, usually a message;
null stands for no detail, which is not the same as an empty one.

* `ValidationError.make` builds an error from a message, or from a template and its arguments.
* `ValidationError.text` shows the detail, `ValidationError.literal` tells apart what `text` does
  not.
* Two errors are equal when their details are.
-/

namespace CredentialCheck

/-- A report that data break a rule. -/
structure ValidationError where
  /-- What is wrong, or null. -/
  detail : Value

namespace ValidationError

/-- An error with the message, in which the arguments have been filled if there are any. -/
def make (message : Value) (args : Template.Arguments) :
    Except Template.Fault ValidationError :=
  match message with
  | .null => .ok ⟨.null⟩
  | message =>
    if args.positional.isEmpty ∧ args.keyword.isEmpty then .ok ⟨message⟩
    else
      match message with
      | .string template => (Template.fill args template).map fun text => ⟨.string text⟩
      | v => .error (.notATemplate v.kind)

/-- Why an error cannot be built from the arguments of a call. -/
inductive CallFault
  /-- The message is given by its place and by its name. -/
  | messageTwice
  | template (fault : Template.Fault)

/-- The fault in words. -/
def CallFault.message : CallFault → String
  | .messageTwice => "invalid() got multiple values for argument 'message'"
  | .template fault => fault.message

/-- An error from the arguments of a call: the message comes first or under its name, and what
remains are arguments of the template. -/
def ofCall (positional : List Value) (keyword : List (String × Value)) :
    Except CallFault ValidationError :=
  let named := (keyword.find? (·.1 == "message")).map Prod.snd
  let others := keyword.filter (·.1 != "message")
  match positional, named with
  | _ :: _, some _ => .error .messageTwice
  | message :: rest, none => (make message ⟨rest, keyword⟩).mapError .template
  | [], some message => (make message ⟨[], others⟩).mapError .template
  | [], none => (make .null ⟨[], keyword⟩).mapError .template

/-- The arguments that the error was made of: its detail, if it has one. -/
def arguments (e : ValidationError) : List Value :=
  match e.detail with
  | .null => []
  | v => [v]

/-- The text of the error: its detail, or nothing if that is null, zero or empty. Any other detail
that is not a text has no text; its sort is the failure. -/
def text (e : ValidationError) : Except Kind String :=
  match e.detail with
  | .string s => .ok s
  | v => if v.isTruthy then .error v.kind else .ok ""

/-- The complaint about a detail that is not a text. -/
def notTextMessage (kind : Kind) : String :=
  "__str__ returned non-string (type " ++ kind.name ++ ")"

/-- The error as a literal. -/
def literal (e : ValidationError) : String := "ValidationError(" ++ e.detail.literal ++ ")"

/-- Equality of errors. -/
def equal (a b : ValidationError) : Bool := a.detail.equal b.detail

end ValidationError

end CredentialCheck
