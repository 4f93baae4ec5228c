import CredentialCheck.ValidationError

/-!
# The family of errors

Validation errors and errors of the command line are both errors of this library; an error of
another family stands for the rest. Errors of the other classes are equal only to themselves,
so comparing takes the places of the errors in a list into account.

* `Item.text`, `Item.literal` and `Item.belongsTo` describe an error.
* `equalAt` compares two items of a list.
* `groups` puts equal items together, as a dictionary with the items as keys does.
-/

namespace CredentialCheck.ErrorFamily

/-- The classes of errors. -/
inductive Category
  /-- Data that break a rule. -/
  | validation
  /-- The common class of this library's errors. -/
  | general
  /-- A failed operation of the command line. -/
  | commandLine
  /-- An error of another family. -/
  | foreign
  deriving DecidableEq, Repr

/-- The name of the class. -/
def Category.name : Category → String
  | .validation => "ValidationError"
  | .general => "AnonCredsError"
  | .commandLine => "AnonCredsCliError"
  | .foreign => "ValueError"

/-- Whether errors of the first class are errors of the second. -/
def Category.isWithin (c d : Category) : Bool :=
  c == d || (d == .general && c != .foreign)

/-- An error made of one argument or none. -/
structure Item where
  category : Category
  argument : Option Value

namespace Item

/-- The detail of a validation error. -/
def validationError (e : Item) : ValidationError := ⟨e.argument.getD .null⟩

/-- The arguments that the error carries. -/
def arguments (e : Item) : List Value :=
  match e.category with
  | .validation => e.validationError.arguments
  | _ => e.argument.toList

/-- The text of the error. -/
def text (e : Item) : Except Kind String :=
  match e.category with
  | .validation => e.validationError.text
  | _ => .ok ((e.argument.map Value.display).getD "")

/-- The error as a literal. -/
def literal (e : Item) : String :=
  match e.category with
  | .validation => e.validationError.literal
  | c => c.name ++ "(" ++ (e.argument.map Value.literal).getD "" ++ ")"

/-- Whether the error is of the class. -/
def belongsTo (e : Item) (c : Category) : Bool := e.category.isWithin c

/-- Whether the error equals itself. A detail that is a bare NaN does not; inside a collection a
NaN is the same object and passes. -/
def equalsItself (e : Item) : Bool :=
  match e.category, e.argument with
  | .validation, some (.float .nan) => false
  | _, _ => true

/-- Whether two different errors are equal: validation errors with equal details. -/
def equalsOther (a b : Item) : Bool :=
  a.category == .validation && b.category == .validation &&
    a.validationError.equal b.validationError

/-- The sort of the detail's part that keeps the error from being a key. -/
def unhashable? (e : Item) : Option Kind :=
  match e.category with
  | .validation => e.validationError.detail.unhashable?
  | _ => none

end Item

/-- Whether the items at two places of a list are equal; there is no such place behind the end. -/
def equalAt (items : List Item) (i j : Nat) : Bool :=
  match items[i]?, items[j]? with
  | some a, some b => if i = j then a.equalsItself else a.equalsOther b
  | _, _ => false

/-- The table of equality of a list. -/
def equalTable (items : List Item) : List (List Bool) :=
  (List.range items.length).map fun i => (List.range items.length).map (equalAt items i)

/-- The place of the first of the representatives that equals the item. -/
def placeOf (representatives : List Item) (e : Item) : Option Nat :=
  representatives.findIdx? (·.equalsOther e)

/-- The groups of the items, when the groups so far have the given representatives. An item that
equals none of them opens a group. -/
def groupsFrom (representatives : List Item) : List Item → Except Kind (List Nat)
  | [] => .ok []
  | e :: es =>
    match e.unhashable? with
    | some kind => .error kind
    | none =>
      match placeOf representatives e with
      | some i => (groupsFrom representatives es).map (i :: ·)
      | none =>
        (groupsFrom (representatives ++ [e]) es).map (representatives.length :: ·)

/-- The number of each item's group, or the sort of a part that cannot be a key. -/
def groups (items : List Item) : Except Kind (List Nat) := groupsFrom [] items

end CredentialCheck.ErrorFamily
