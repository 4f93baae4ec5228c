import CredentialCheck.Json.Text
import CredentialCheck.Value.Equality

/-!
# Reading JSON texts

A reader of JSON that reports the first fault in the text. Of an object's entries with one key the
last value counts, at the place of the first.

* `Limits` bounds the nesting of lists and objects and the digits of an integer.
* `readValue` reads one value off the front of a text, `read` a whole text.
-/

namespace CredentialCheck.Json

/-- How far a text may go. -/
structure Limits where
  /-- How deep lists and objects may be nested; the innermost ones at this depth are empty. -/
  depth : Nat
  /-- How many digits an integer, or a number in front of its point, may have. -/
  digits : Nat

/-- The limits for documents. -/
def Limits.document : Limits := ⟨201, 4300⟩

/-- The elements of a list behind its bracket, one at least. Each takes up a byte at least, so with
more `fuel` than bytes it never runs out. -/
def readElements (element : Reader Value) : (fuel : Nat) → Reader (List Value)
  | 0, _ => .error ⟨.endInList, 0⟩
  | fuel + 1, bs =>
    match element bs with
    | .error f => .error f
    | .ok (v, bs) =>
      match skipBlank bs with
      | [] => .error ⟨.endInList, 0⟩
      | 0x5D :: bs => .ok ([v], bs)
      | 0x2C :: bs =>
        match skipBlank bs with
        | [] => .error ⟨.endInValue, 0⟩
        | 0x5D :: bs => .error ⟨.trailingComma, bs.length + 1⟩
        | bs =>
          match readElements element fuel bs with
          | .error f => .error f
          | .ok (vs, bs) => .ok (v :: vs, bs)
      | bs => .error ⟨.expectedCommaOrBracket, bs.length⟩

/-- A list, from behind its bracket. -/
def readList (element : Reader Value) : Reader Value := fun bs =>
  match skipBlank bs with
  | [] => .error ⟨.endInList, 0⟩
  | 0x5D :: bs => .ok (.list [], bs)
  | bs =>
    match readElements element (bs.length + 1) bs with
    | .error f => .error f
    | .ok (vs, bs) => .ok (.list vs, bs)

/-- A key and its colon, from behind the key's opening mark. -/
def readKey : Reader String := fun bs =>
  match readString bs with
  | .error f => .error f
  | .ok (key, bs) =>
    match skipBlank bs with
    | [] => .error ⟨.endInObject, 0⟩
    | 0x3A :: bs => .ok (key, bs)
    | bs => .error ⟨.expectedColon, bs.length⟩

/-- The entries of an object from behind the opening mark of the first key. Fuel is spent as in
`readElements`. -/
def readEntries (element : Reader Value) : (fuel : Nat) → Reader (List (Value × Value))
  | 0, _ => .error ⟨.endInObject, 0⟩
  | fuel + 1, bs =>
    match readKey bs with
    | .error f => .error f
    | .ok (key, bs) =>
      match element bs with
      | .error f => .error f
      | .ok (v, bs) =>
        match skipBlank bs with
        | [] => .error ⟨.endInObject, 0⟩
        | 0x7D :: bs => .ok ([(.string key, v)], bs)
        | 0x2C :: bs =>
          match skipBlank bs with
          | [] => .error ⟨.endInValue, 0⟩
          | 0x7D :: bs => .error ⟨.trailingComma, bs.length + 1⟩
          | 0x22 :: bs =>
            match readEntries element fuel bs with
            | .error f => .error f
            | .ok (entries, bs) => .ok ((.string key, v) :: entries, bs)
          | bs => .error ⟨.keyNotString, bs.length⟩
        | bs => .error ⟨.expectedCommaOrBrace, bs.length⟩

/-- An object, from behind its brace. -/
def readObject (element : Reader Value) : Reader Value := fun bs =>
  match skipBlank bs with
  | [] => .error ⟨.endInObject, 0⟩
  | 0x7D :: bs => .ok (.dict [], bs)
  | 0x22 :: bs =>
    match readEntries element (bs.length + 1) bs with
    | .error f => .error f
    | .ok (entries, bs) => .ok (Value.dictOf entries, bs)
  | bs => .error ⟨.keyNotString, bs.length⟩

/-- A value, with `element` for the values directly inside it. -/
def readValueWith (digits : Nat) (element : Reader Value) : Reader Value := fun bs =>
  match skipBlank bs with
  | [] => .error ⟨.endInValue, 0⟩
  | 0x6E :: bs => (readWord "ull".toList bs).map (.null, ·)
  | 0x74 :: bs => (readWord "rue".toList bs).map (.bool true, ·)
  | 0x66 :: bs => (readWord "alse".toList bs).map (.bool false, ·)
  | 0x4E :: bs => (readWord "aN".toList bs).map (.float .nan, ·)
  | 0x49 :: bs => (readWord "nfinity".toList bs).map (.float (.infinite false), ·)
  | 0x22 :: bs => (readString bs).map fun (s, bs) => (.string s, bs)
  | 0x5B :: bs => readList element bs
  | 0x7B :: bs => readObject element bs
  | b :: bs =>
    if b = 0x2D ∨ isDigit b then readNumber digits (b :: bs)
    else .error ⟨.expectedValue, bs.length + 1⟩

/-- Refuses every value. -/
def refuse : Reader Value := fun bs =>
  match skipBlank bs with
  | [] => .error ⟨.endInValue, 0⟩
  | bs => .error ⟨.tooDeep, bs.length⟩

/-- A value that stands inside fewer than `depth` lists and objects, together with its parts. -/
def readValue (digits : Nat) : (depth : Nat) → Reader Value
  | 0 => refuse
  | depth + 1 => readValueWith digits (readValue digits depth)

/-- A whole text. -/
def read (limits : Limits) (bs : List UInt8) : Except Fault Value :=
  match readValue limits.digits limits.depth bs with
  | .error f => .error f
  | .ok (v, bs) =>
    match skipBlank bs with
    | [] => .ok v
    | bs => .error ⟨.trailingCharacters, bs.length⟩

end CredentialCheck.Json
