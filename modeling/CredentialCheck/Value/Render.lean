import CredentialCheck.Number.Layout
import CredentialCheck.Text.Quoted
import CredentialCheck.Value.Basic

/-!
# Values as text

* `Value.literal` writes a value so that it can be told from others: texts are quoted.
* `Value.literalAscii` does so in ASCII.
* `Value.display` shows a text as it is, and every other value as its literal.
* `Value.isShowable` says whether it is done: integers of too many digits are refused.
-/

namespace CredentialCheck.Value

mutual

/-- The literal of a value, with `quote` for the texts in it. -/
def literalBy (quote : String → String) : Value → String
  | .null => "None"
  | .bool b => if b then "True" else "False"
  | .integer n => toString n
  | .float x => x.text
  | .string s => quote s
  | .bytes bs => Text.quotedBytes bs
  | .byteArray bs => "bytearray(" ++ Text.quotedByteArray bs ++ ")"
  | .tuple items =>
    "(" ++ ", ".intercalate (literalsBy quote items) ++ (if items.length = 1 then ",)" else ")")
  | .set items =>
    if items.isEmpty then "set()" else "\x7b" ++ ", ".intercalate (literalsBy quote items) ++ "\x7d"
  | .list items => "[" ++ ", ".intercalate (literalsBy quote items) ++ "]"
  | .dict entries => "\x7b" ++ ", ".intercalate (entriesBy quote entries) ++ "\x7d"

/-- The literals of several values. -/
def literalsBy (quote : String → String) : List Value → List String
  | [] => []
  | v :: vs => literalBy quote v :: literalsBy quote vs

/-- The literals of the entries of a dictionary. -/
def entriesBy (quote : String → String) : List (Value × Value) → List String
  | [] => []
  | (k, v) :: es => (literalBy quote k ++ ": " ++ literalBy quote v) :: entriesBy quote es

end

/-- The literal of a value. -/
def literal (v : Value) : String := literalBy Text.quoted v

/-- The literal of a value in ASCII. -/
def literalAscii (v : Value) : String := literalBy Text.quotedAscii v

/-- The value as text. -/
def display : Value → String
  | .string s => s
  | v => v.literal

/-! ## Integers of too many digits -/

/-- The greatest number of decimal digits that an integer is shown with. -/
def maxDigits : Nat := 4300

/-- Whether an integer has too many digits to be shown. -/
def hasTooManyDigits (n : Int) : Bool := Nat.pow 10 maxDigits ≤ n.natAbs

mutual

/-- Whether the value can be shown: no integer in it has too many digits. -/
def isShowable : Value → Bool
  | .integer n => !hasTooManyDigits n
  | .tuple items => areShowable items
  | .set items => areShowable items
  | .list items => areShowable items
  | .dict entries => entriesAreShowable entries
  | _ => true

/-- Whether all values can be shown. -/
def areShowable : List Value → Bool
  | [] => true
  | v :: vs => isShowable v && areShowable vs

/-- Whether all keys and values can be shown. -/
def entriesAreShowable : List (Value × Value) → Bool
  | [] => true
  | (k, v) :: es => isShowable k && isShowable v && entriesAreShowable es

end

end CredentialCheck.Value
