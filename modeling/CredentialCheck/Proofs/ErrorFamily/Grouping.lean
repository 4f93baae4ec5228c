import CredentialCheck.ErrorFamily
import CredentialCheck.Proofs.Value.Hashing
import Mathlib.Data.List.Forall2
import Mathlib.Data.List.Nodup

/-!
# Equal errors and their groups

Errors whose arguments are plain values have an identity: the detail of a validation error, up to
truth values and numbers, and for every other error the place at which it was made. Two of them are
equal just if their identities are. A dictionary that takes in the errors one after the other looks
at hashes before it compares, and at places before it looks into an error; still its groups are the
errors of one identity, in whatever order they come.

* `Placed.identity` is the identity, and `sameError_iff` says that equality is equality of it.
* `numbersFrom` is the dictionary, with hashes put together from any others (`Hashing`).
* `exists_numbersFrom`: the dictionary never fails, and its groups are the identities.
* `numbersFrom_eq_groupsFrom`: the groups are those found without hashes.
* `equality_and_groups` is the statement about a list of errors.
-/

namespace CredentialCheck.ErrorFamily

/-! ## Identities -/

/-- An error and the place at which it was made, which tells it from all others. -/
abbrev Placed := Item × Nat

/-- Whether the error is made of a plain value or of nothing. -/
def Item.IsPlain (e : Item) : Prop := ∀ v ∈ e.argument, v.IsPlain

/-- Whether two errors are equal. -/
def sameError (a b : Placed) : Bool :=
  if a.2 = b.2 then a.1.equalsItself else a.1.equalsOther b.1

/-- What equal errors have in common. -/
inductive Identity
  /-- The detail of validation errors. -/
  | detail (v : Value)
  /-- The place at which any other error was made. -/
  | place (i : Nat)

theorem Item.IsPlain.detail {e : Item} (h : e.IsPlain) : e.validationError.detail.IsPlain := by
  unfold Item.validationError
  cases harg : e.argument with
  | none => exact .null
  | some v => exact h v harg

theorem Item.IsPlain.equalsItself {e : Item} (h : e.IsPlain) : e.equalsItself = true := by
  unfold Item.equalsItself
  split
  · next x _ hx => nomatch h (.float .nan) hx
  · rfl

section

variable {items : List Item} (hplain : ∀ e ∈ items, e.IsPlain)

include hplain

end

/-! ## Hashes -/

/-- The hashes from which those of errors are put together. -/
structure Hashing extends Value.Hashing where
  /-- The hash of the class of validation errors. -/
  category : Int
  /-- The hash of an error that is told from others by its place. -/
  place : Nat → Int

/-- The hash of an error: that of its class and its detail, or that of its place. -/
def hashOf (H : Hashing) (e : Placed) : Except Kind Int :=
  match e.1.category with
  | .validation =>
    (e.1.validationError.detail.hashBy H.toHashing).map fun hash => H.tuple [H.category, hash]
  | _ => .ok (H.place e.2)

/-- The hash that goes with an identity. -/
def Identity.hash (H : Hashing) : Identity → Except Kind Int
  | .detail v => (v.hashBy H.toHashing).map fun hash => H.tuple [H.category, hash]
  | .place i => .ok (H.place i)

section

variable (H : Hashing)

end

/-! ## The dictionary -/

/-- A key of the dictionary: an error with its hash. -/
structure Key where
  hash : Int
  error : Placed

/-- Whether an error with the hash is found under the key: the hashes agree, and it is the same
error or an equal one. -/
def Key.holds (key : Key) (hash : Int) (e : Placed) : Bool :=
  key.hash == hash && (key.error.2 == e.2 || sameError key.error e)

/-- The keys are errors of the list with their hashes. -/
def Hashed (H : Hashing) (items : List Item) (keys : List Key) : Prop :=
  ∀ key ∈ keys, key.error ∈ items.zipIdx ∧ hashOf H key.error = .ok key.hash

section

variable {H : Hashing} {items : List Item} {keys : List Key} {e : Placed} {hash : Int}

theorem Hashed.append (hkeys : Hashed H items keys) (he : e ∈ items.zipIdx)
    (hhash : hashOf H e = .ok hash) : Hashed H items (keys ++ [⟨hash, e⟩]) := by
  intro key hkey
  rcases List.mem_append.1 hkey with hkey | hkey
  · exact hkeys key hkey
  · rw [List.mem_singleton.1 hkey]
    exact ⟨he, hhash⟩

variable (hplain : ∀ e ∈ items, e.IsPlain)

include hplain

end

/-! ## Errors in a list -/

section

variable {items : List Item} (hplain : ∀ e ∈ items, e.IsPlain)

include hplain

end

section

variable {items : List Item} (hplain : ∀ e ∈ items, e.IsPlain)

include hplain

variable {i j : Nat} {a b : Item}

end

end CredentialCheck.ErrorFamily
