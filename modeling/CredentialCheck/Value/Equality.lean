import CredentialCheck.Value.Basic

/-!
# Equality of loose values

Two values are equal when they stand for the same thing, whatever their sorts: a truth value is
the number 0 or 1, an integer equals the double of the same magnitude, bytes equal bytes that may
be changed. Sets and dictionaries are compared without regard to order. A NaN equals nothing.

* `Value.equal` is the comparison.
* `lookup?` and `insertEntry` keep a dictionary's entries apart under it: an entry keeps its first
  place and its last value.
* `distinct` drops what equals an earlier value.
-/

namespace CredentialCheck.Value

/-- Whether the value is the integer `n`. -/
def equalInteger (n : Int) : Value → Bool
  | .bool b => ofBool b == n
  | .integer m => m == n
  | .float x => x.equalInt n
  | _ => false

/-- Whether the value is the number `x`. -/
def equalFloat (x : Binary64) : Value → Bool
  | .bool b => x.equalInt (ofBool b)
  | .integer n => x.equalInt n
  | .float y => x.equal y
  | _ => false

/-- Whether the value consists of the bytes `bs`. -/
def equalBytes (bs : List UInt8) : Value → Bool
  | .bytes cs => bs == cs
  | .byteArray cs => bs == cs
  | _ => false

mutual

/-- Equality of two values. -/
def equal : Value → Value → Bool
  | .null, w => w.kind == .null
  | .bool b, w => equalInteger (ofBool b) w
  | .integer n, w => equalInteger n w
  | .float x, w => equalFloat x w
  | .string s, .string t => s == t
  | .bytes bs, w => equalBytes bs w
  | .byteArray bs, w => equalBytes bs w
  | .tuple xs, .tuple ys => equalLists xs ys
  | .list xs, .list ys => equalLists xs ys
  | .set xs, .set ys => xs.length == ys.length && equalSubset xs ys
  | .dict xs, .dict ys => xs.length == ys.length && equalEntries xs ys
  | _, _ => false

/-- Equality of two lists, element by element. -/
def equalLists : List Value → List Value → Bool
  | [], [] => true
  | x :: xs, y :: ys => equal x y && equalLists xs ys
  | _, _ => false

/-- Whether each value equals one of `ys`. -/
def equalSubset : List Value → List Value → Bool
  | [], _ => true
  | x :: xs, ys => ys.any (fun y => equal x y) && equalSubset xs ys

/-- Whether each entry has an equal value under an equal key in `ys`. -/
def equalEntries : List (Value × Value) → List (Value × Value) → Bool
  | [], _ => true
  | (k, v) :: xs, ys =>
    (match ys.find? (fun y => equal k y.1) with
      | some y => equal v y.2
      | none => false) && equalEntries xs ys

end

/-- Whether one of the values equals `v`. -/
def isAmong (v : Value) (vs : List Value) : Bool := vs.any v.equal

/-- The value under a key. -/
def lookup? (entries : List (Value × Value)) (key : Value) : Option Value :=
  (entries.find? fun e => key.equal e.1).map Prod.snd

/-- The entries with `value` under `key`: in the place of an equal key, or at the end. -/
def insertEntry (entries : List (Value × Value)) (key value : Value) : List (Value × Value) :=
  match entries with
  | [] => [(key, value)]
  | e :: es =>
    if key.equal e.1 then (e.1, value) :: es else e :: insertEntry es key value

/-- The dictionary that results from putting the entries in one by one. -/
def dictOf (entries : List (Value × Value)) : Value :=
  .dict (entries.foldl (fun acc e => insertEntry acc e.1 e.2) [])

/-- The values of a list that do not equal an earlier one. -/
def distinct (items : List Value) : List Value :=
  items.foldl (fun earlier v => if v.isAmong earlier then earlier else earlier ++ [v]) []

end CredentialCheck.Value
