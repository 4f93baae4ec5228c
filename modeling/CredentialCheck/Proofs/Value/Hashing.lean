import CredentialCheck.Value.Equality

/-!
# Plain values and their hashes

Null, truth values, integers, texts, bytes, and tuples of such values: the values that are keys and
hold no doubles. Two of them are equal just if they become the same value when each truth value is
replaced by the number it counts for, at every depth. So their equality is an equivalence, and a
hash that is put together along the value agrees with it.

* `Value.IsPlain` are these values, and `Value.numeric` makes the replacement.
* `Value.equal_eq_true_iff` is the statement about equality.
* `Value.hashBy` puts a hash together from the hashes of the parts, whatever those are
  (`Value.Hashing`); only a value that is not a key has none (`Value.hashBy_unhashable`).
* `Value.hashBy_eq_of_equal`: equal values have the same hash.
-/

namespace CredentialCheck.Value

/-! ## Plain values -/

/-- The values made of null, truth values, integers, texts and bytes by tuples. -/
inductive IsPlain : Value → Prop
  | null : IsPlain .null
  | bool (b : Bool) : IsPlain (.bool b)
  | integer (n : Int) : IsPlain (.integer n)
  | string (s : String) : IsPlain (.string s)
  | bytes (bs : List UInt8) : IsPlain (.bytes bs)
  | tuple {items : List Value} (h : ∀ v ∈ items, IsPlain v) : IsPlain (.tuple items)

mutual

/-- The value with numbers in place of truth values, in tuples as well. -/
def numeric : Value → Value
  | .bool b => .integer (ofBool b)
  | .tuple items => .tuple (numericEach items)
  | v => v

/-- The same for each of several values. -/
def numericEach : List Value → List Value
  | [] => []
  | v :: vs => numeric v :: numericEach vs

end

/-! ## Equality -/

theorem equalInteger_eq_true_iff {n : Int} {w : Value} (hw : w.IsPlain) :
    equalInteger n w = true ↔ .integer n = w.numeric := by
  have hcomm (m : Int) : m = n ↔ Value.integer n = .integer m := by
    rw [Value.integer.injEq, eq_comm]
  cases hw <;> simp [equalInteger, numeric, hcomm]

theorem equalLists_eq_true_iff {xs ys : List Value}
    (h : ∀ x ∈ xs, ∀ y ∈ ys, equal x y = true ↔ x.numeric = y.numeric) :
    equalLists xs ys = true ↔ numericEach xs = numericEach ys := by
  induction xs generalizing ys with
  | nil => cases ys <;> simp [equalLists, numericEach]
  | cons x xs ih =>
    cases ys with
    | nil => simp [equalLists, numericEach]
    | cons y ys =>
      have hhead := h x List.mem_cons_self y List.mem_cons_self
      have htail := ih fun x hx y hy =>
        h x (List.mem_cons_of_mem _ hx) y (List.mem_cons_of_mem _ hy)
      simp only [equalLists, numericEach, Bool.and_eq_true, hhead, htail, List.cons.injEq]

/-- **Plain values are equal just if they are the same up to truth values and numbers.** -/
theorem equal_eq_true_iff {v w : Value} (hv : v.IsPlain) (hw : w.IsPlain) :
    equal v w = true ↔ v.numeric = w.numeric := by
  induction hv generalizing w with
  | null => cases hw <;> simp [equal, numeric, kind]
  | bool b | integer n =>
    simp only [equal, numeric]
    exact equalInteger_eq_true_iff hw
  | string s => cases hw <;> simp [equal, numeric]
  | bytes bs => cases hw <;> simp [equal, equalBytes, numeric]
  | @tuple xs _ ih =>
    cases hw with
    | @tuple ys hys =>
      simp only [equal, numeric, Value.tuple.injEq]
      exact equalLists_eq_true_iff fun x hx y hy => ih x hx (hys y hy)
    | _ => simp [equal, numeric]

/-! ## Hashes -/

/-- The hashes of the parts of a value, and how those of the elements make that of a tuple. -/
structure Hashing where
  null : Int
  integer : Int → Int
  float : Binary64 → Int
  text : String → Int
  bytes : List UInt8 → Int
  tuple : List Int → Int

variable (H : Hashing)

mutual

/-- The hash of a value, or the sort of the first part that has none. A truth value is hashed as the
number it counts for. -/
def hashBy : Value → Except Kind Int
  | .null => .ok H.null
  | .bool b => .ok (H.integer (ofBool b))
  | .integer n => .ok (H.integer n)
  | .float x => .ok (H.float x)
  | .string s => .ok (H.text s)
  | .bytes bs => .ok (H.bytes bs)
  | .byteArray _ => .error .byteArray
  | .tuple items => (hashesBy items).map H.tuple
  | .set _ => .error .set
  | .list _ => .error .list
  | .dict _ => .error .dict

/-- The hashes of several values, or the sort of the first part that has none. -/
def hashesBy : List Value → Except Kind (List Int)
  | [] => .ok []
  | v :: vs =>
    match hashBy v with
    | .error kind => .error kind
    | .ok hash => (hashesBy vs).map (hash :: ·)

end

/-- The error of a result. -/
def failure? {α : Type} : Except Kind α → Option Kind
  | .error kind => some kind
  | .ok _ => none

theorem failure?_map {α β : Type} (f : α → β) (x : Except Kind α) :
    failure? (x.map f) = failure? x := by
  cases x <;> rfl

mutual

/-- The values without a hash are those that are no keys. -/
theorem hashBy_unhashable : (v : Value) → failure? (hashBy H v) = v.unhashable?
  | .tuple items => by
    rw [hashBy, failure?_map, unhashable?]
    exact hashesBy_unhashable items
  | .null | .bool _ | .integer _ | .float _ | .string _ | .bytes _ | .byteArray _ | .set _
  | .list _ | .dict _ => rfl

theorem hashesBy_unhashable : (vs : List Value) → failure? (hashesBy H vs) = unhashableAmong? vs
  | [] => rfl
  | v :: vs => by
    have hv := hashBy_unhashable v
    have hvs := hashesBy_unhashable vs
    rw [hashesBy, unhashableAmong?, ← hv]
    cases hashBy H v with
    | error kind => rfl
    | ok hash => exact (failure?_map _ _).trans hvs

end

mutual

/-- Truth values have the hashes of their numbers. -/
theorem hashBy_numeric : (v : Value) → hashBy H v.numeric = hashBy H v
  | .tuple items => congrArg (Except.map H.tuple) (hashesBy_numericEach items)
  | .null | .bool _ | .integer _ | .float _ | .string _ | .bytes _ | .byteArray _ | .set _
  | .list _ | .dict _ => rfl

theorem hashesBy_numericEach : (vs : List Value) → hashesBy H (numericEach vs) = hashesBy H vs
  | [] => rfl
  | v :: vs => by rw [numericEach, hashesBy, hashesBy, hashBy_numeric v, hashesBy_numericEach vs]

end

/-- **Equal values have the same hash.** -/
theorem hashBy_eq_of_equal {v w : Value} (hv : v.IsPlain) (hw : w.IsPlain)
    (h : equal v w = true) : hashBy H v = hashBy H w := by
  rw [← hashBy_numeric H v, ← hashBy_numeric H w, (equal_eq_true_iff hv hw).1 h]

end CredentialCheck.Value
