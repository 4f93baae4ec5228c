import CredentialCheck.Number.Binary64

/-!
# Loose values

The values that callers hand over before anything has been checked: messages, template arguments,
decoded documents. Collections are lists, so the elements of a set and of a dictionary have an
order.

* `Kind` names the sorts of value, `Value.kind` the sort of one.
* `Value.isTruthy` says whether a value counts as present: not null, zero or empty.
* `Value.unhashable?` is the first part of a value that cannot be a key.
-/

namespace CredentialCheck

/-- The sorts of value. -/
inductive Kind
  | null
  | bool
  | integer
  | float
  | string
  | bytes
  | byteArray
  | tuple
  | set
  | list
  | dict
  deriving DecidableEq, Repr

/-- The sort as messages call it. -/
def Kind.name : Kind → String
  | .null => "NoneType"
  | .bool => "bool"
  | .integer => "int"
  | .float => "float"
  | .string => "str"
  | .bytes => "bytes"
  | .byteArray => "bytearray"
  | .tuple => "tuple"
  | .set => "set"
  | .list => "list"
  | .dict => "dict"

/-- A loose value. -/
inductive Value
  | null
  | bool (b : Bool)
  | integer (n : Int)
  | float (x : Binary64)
  | string (s : String)
  | bytes (bs : List UInt8)
  /-- Bytes that may be changed in place, and so are no key. -/
  | byteArray (bs : List UInt8)
  | tuple (items : List Value)
  | set (items : List Value)
  | list (items : List Value)
  | dict (entries : List (Value × Value))
  deriving Inhabited

namespace Value

/-- The sort of a value. -/
def kind : Value → Kind
  | .null => .null
  | .bool _ => .bool
  | .integer _ => .integer
  | .float _ => .float
  | .string _ => .string
  | .bytes _ => .bytes
  | .byteArray _ => .byteArray
  | .tuple _ => .tuple
  | .set _ => .set
  | .list _ => .list
  | .dict _ => .dict

/-- Whether the value is neither null nor zero nor empty. -/
def isTruthy : Value → Bool
  | .null => false
  | .bool b => b
  | .integer n => n != 0
  | .float x => !x.isZero
  | .string s => !s.isEmpty
  | .bytes bs => !bs.isEmpty
  | .byteArray bs => !bs.isEmpty
  | .tuple items => !items.isEmpty
  | .set items => !items.isEmpty
  | .list items => !items.isEmpty
  | .dict entries => !entries.isEmpty

/-- The least positive number that does not fit into 64 bits with a sign. -/
def wordBound : Nat := 9223372036854775808

/-- A truth value as the number it counts for. -/
def ofBool (b : Bool) : Int := if b then 1 else 0

mutual

/-- The sort of the first part that cannot be a key, if there is one. A tuple is a key when its
elements are. -/
def unhashable? : Value → Option Kind
  | .byteArray _ => some .byteArray
  | .set _ => some .set
  | .list _ => some .list
  | .dict _ => some .dict
  | .tuple items => unhashableAmong? items
  | _ => none

/-- The same for the first of several values that has such a part. -/
def unhashableAmong? : List Value → Option Kind
  | [] => none
  | v :: vs => (unhashable? v).orElse fun _ => unhashableAmong? vs

end

end Value

end CredentialCheck
