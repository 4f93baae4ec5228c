import CredentialCheck.Value.Equality

/-!
# The order of a set

The elements of a set stand in a table, each as near as it can to the place that its key names,
and the set lists them in the order of their places. Every number has a key, the same as that of
each number which equals it. A set in which something has no key lists its elements as they came.

* `key?` is the key of a number.
* `Table.add` puts an element at a free place; a table that becomes too full grows.
* `setOf` is the set of the elements.
-/

namespace CredentialCheck.Value

/-! ## Keys -/

/-- The prime modulo which the keys of numbers are taken. It is `2 ^ 61 - 1`. -/
def keyModulus : Nat := 0x1FFFFFFFFFFFFFFF

/-- The key of a number of this sign and magnitude; no key is -1. -/
def signedKey (negative : Bool) (magnitude : Nat) : Int :=
  let remainder : Int := (magnitude % keyModulus : Nat)
  match negative, remainder with
  | false, r => r
  | true, 1 => -2
  | true, r => -r

/-- The key of a number. A unit of a double is `2 ^ 24` modulo `keyModulus`. -/
def key? : Value → Option Int
  | .bool b => some (ofBool b)
  | .integer n => some (signedKey (n < 0) n.natAbs)
  | .float (.finite negative units) => some (signedKey negative (units * 0x1000000))
  | .float (.infinite negative) => some (if negative then -314159 else 314159)
  | _ => none

/-! ## The table -/

/-- An element with its key as a word of 64 bits. -/
structure Keyed where
  key : Nat
  value : Value

/-- The places of a table. Their number is a power of two. -/
abbrev Table := Array (Option Keyed)

namespace Table

/-- A table of free places. -/
def ofSize (size : Nat) : Table := Array.replicate size none

/-- The number of places in the least table. -/
def minSize : Nat := 8

/-- The number of places that are tried in a row. -/
def runLength : Nat := 10

/-- The places to try from a place on: one after the other, or only the one near the end. -/
def placesFrom (t : Table) (place : Nat) : List Nat :=
  if place + runLength ≤ t.size then List.range' place runLength else [place]

/-- Whether a place is free. -/
def isFree (t : Table) (place : Nat) : Bool := (t[place]?.map Option.isNone).getD false

/-- The first free place from a place on. What is left of the key decides where to go on from a
place that is taken. -/
def freePlace? (t : Table) : (fuel : Nat) → (rest : Nat) → (place : Nat) → Option Nat
  | 0, _, _ => none
  | fuel + 1, rest, place =>
    match (t.placesFrom place).find? t.isFree with
    | some free => some free
    | none => t.freePlace? fuel (rest / 32) ((5 * place + 1 + rest / 32) % t.size)

/-- Puts an element at the first free place from that of its key on. The key is used up in 13
steps, and from there on every place is tried once. -/
def put (t : Table) (x : Keyed) : Table :=
  match t.freePlace? (t.size + 13) x.key (x.key % t.size) with
  | some place => t.set! place (some x)
  | none => t

/-- The elements in the order of their places. -/
def elements (t : Table) : List Keyed := t.toList.filterMap id

/-- The number of places for `n` elements: the least power of two above `n`. -/
def sizeFor (n : Nat) : Nat := max minSize (Nat.pow 2 (n.log2 + 1))

/-- The same elements in a larger table. -/
def grown (t : Table) : Table :=
  let count := t.elements.length
  t.elements.foldl put (ofSize (sizeFor (if 50000 < count then 2 * count else 4 * count)))

/-- Puts an element in. The table grows when three fifths of it are taken. -/
def add (t : Table) (x : Keyed) : Table :=
  let t := t.put x
  if 5 * t.elements.length < 3 * (t.size - 1) then t else t.grown

end Table

/-! ## Sets -/

/-- The value with its key. -/
def keyed? (v : Value) : Option Keyed :=
  v.key?.map fun key => ⟨(key % 0x10000000000000000).toNat, v⟩

/-- Distinct values in the order in which a set lists them. -/
def inSetOrder (items : List Value) : List Value :=
  match items.mapM keyed? with
  | some xs => (xs.foldl Table.add (Table.ofSize Table.minSize)).elements.map Keyed.value
  | none => items

/-- The set that results from putting the elements in one by one. -/
def setOf (items : List Value) : Value := .set (inSetOrder (distinct items))

end CredentialCheck.Value
