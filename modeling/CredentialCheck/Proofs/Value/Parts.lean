import CredentialCheck.Proofs.Json.Decoded

/-!
# The parts of a value

A value equals itself unless a NaN is inside it: the parts of equal places are compared, and in a
dictionary each key is found again at its own place, for no key stands twice.

* `Value.Inside` relates the parts of a value to it, at any depth.
* `Value.IsNaNFree` and `Value.KeysDiffer` are the two conditions. The keys of a value of JSON
  differ (`Value.IsJson.keysDiffer`).
* `Value.equal_self` is the statement.
-/

namespace CredentialCheck.Value

/-! ## Parts -/

/-- The value `w` is the second one or a part of it. -/
inductive Inside (w : Value) : Value → Prop
  | self : Inside w w
  | tuple {v : Value} {items : List Value} (hv : v ∈ items) (h : Inside w v) :
    Inside w (.tuple items)
  | set {v : Value} {items : List Value} (hv : v ∈ items) (h : Inside w v) :
    Inside w (.set items)
  | list {v : Value} {items : List Value} (hv : v ∈ items) (h : Inside w v) :
    Inside w (.list items)
  | key {e : Value × Value} {entries : List (Value × Value)} (he : e ∈ entries)
    (h : Inside w e.1) : Inside w (.dict entries)
  | entry {e : Value × Value} {entries : List (Value × Value)} (he : e ∈ entries)
    (h : Inside w e.2) : Inside w (.dict entries)

theorem Inside.trans {u v w : Value} (huv : Inside u v) (hvw : Inside v w) : Inside u w := by
  induction hvw with
  | self => exact huv
  | tuple hv _ ih => exact .tuple hv ih
  | set hv _ ih => exact .set hv ih
  | list hv _ ih => exact .list hv ih
  | key he _ ih => exact .key he ih
  | entry he _ ih => exact .entry he ih

/-- No NaN is inside. -/
def IsNaNFree (v : Value) : Prop := ¬ Inside (.float .nan) v

/-- No dictionary inside has a key twice. -/
def KeysDiffer (v : Value) : Prop :=
  ∀ entries, Inside (.dict entries) v → entries.Pairwise fun a b => equal b.1 a.1 = false

theorem IsNaNFree.of_inside {v w : Value} (h : v.IsNaNFree) (hw : Inside w v) : w.IsNaNFree :=
  fun hnan => h (hnan.trans hw)

theorem KeysDiffer.of_inside {v w : Value} (h : v.KeysDiffer) (hw : Inside w v) : w.KeysDiffer :=
  fun entries hentries => h entries (hentries.trans hw)

/-- What is found under a key is inside the dictionary. -/
theorem inside_of_lookup? {entries : List (Value × Value)} {key v : Value}
    (h : lookup? entries key = some v) : Inside v (.dict entries) := by
  obtain ⟨e, he, rfl⟩ := Option.map_eq_some_iff.1 h
  exact .entry (List.mem_of_find?_eq_some he) .self

theorem pairwise_textEntries {entries : List (String × Value)}
    (h : (entries.map Prod.fst).Nodup) :
    (textEntries entries).Pairwise fun a b => equal b.1 a.1 = false := by
  rw [textEntries, List.pairwise_map]
  refine (List.pairwise_map.1 h).imp fun {a b} hne => ?_
  simpa [equal] using Ne.symm hne

theorem IsJson.keysDiffer {v : Value} (h : v.IsJson) : v.KeysDiffer := by
  intro entries hentries
  induction hentries with
  | self =>
    generalize hd : Value.dict entries = d at h
    cases h with
    | dict hkeys _ =>
      cases hd
      exact pairwise_textEntries hkeys
    | _ => cases hd
  | tuple | set => cases h
  | list hv _ ih =>
    cases h with
    | list hitems => exact ih (hitems _ hv)
  | key he hinside =>
    cases h with
    | dict _ _ =>
      -- the keys are texts, with nothing inside them
      obtain ⟨e, -, rfl⟩ := List.mem_map.1 he
      cases hinside
  | entry he _ ih =>
    cases h with
    | dict _ hvalues =>
      obtain ⟨e, hmem, rfl⟩ := List.mem_map.1 he
      exact ih (hvalues e hmem)

/-! ## Equality with itself -/

theorem equalFloat_self {x : Binary64} (h : x ≠ .nan) : equalFloat x (.float x) = true := by
  cases x with
  | nan => exact absurd rfl h
  | infinite negative => simp [equalFloat, Binary64.equal]
  | finite negative units => simp [equalFloat, Binary64.equal]

theorem equalLists_self {items : List Value} (h : ∀ v ∈ items, equal v v = true) :
    equalLists items items = true := by
  induction items with
  | nil => rw [equalLists]
  | cons v vs ih =>
    rw [equalLists, h v List.mem_cons_self, ih fun w hw => h w (List.mem_cons_of_mem v hw)]
    rfl

theorem equalSubset_of_subset {xs ys : List Value} (h : ∀ v ∈ xs, equal v v = true)
    (hsub : xs ⊆ ys) : equalSubset xs ys = true := by
  induction xs with
  | nil => rw [equalSubset]
  | cons v vs ih =>
    obtain ⟨hv, hvs⟩ := List.cons_subset.1 hsub
    rw [equalSubset, ih (fun w hw => h w (List.mem_cons_of_mem v hw)) hvs, Bool.and_true,
      List.any_eq_true]
    exact ⟨v, hv, h v List.mem_cons_self⟩

/-- An entry is found under its key. -/
theorem find?_key {entries : List (Value × Value)}
    (hkeys : entries.Pairwise fun a b => equal b.1 a.1 = false) {e : Value × Value}
    (he : e ∈ entries) (hself : equal e.1 e.1 = true) :
    entries.find? (fun d => equal e.1 d.1) = some e := by
  induction entries with
  | nil => cases he
  | cons d ds ih =>
    obtain ⟨hd, hds⟩ := List.pairwise_cons.1 hkeys
    rcases List.mem_cons.1 he with rfl | he
    · simp [hself]
    · simp [hd e he, ih hds he]

theorem equalEntries_of_subset {xs ys : List (Value × Value)}
    (hkeys : ys.Pairwise fun a b => equal b.1 a.1 = false)
    (h : ∀ e ∈ xs, equal e.1 e.1 = true ∧ equal e.2 e.2 = true) (hsub : xs ⊆ ys) :
    equalEntries xs ys = true := by
  induction xs with
  | nil => rw [equalEntries]
  | cons e es ih =>
    obtain ⟨k, v⟩ := e
    obtain ⟨he, hes⟩ := List.cons_subset.1 hsub
    obtain ⟨hkey, hvalue⟩ := h (k, v) List.mem_cons_self
    rw [equalEntries, find?_key hkeys he hkey,
      ih (fun d hd => h d (List.mem_cons_of_mem _ hd)) hes, Bool.and_true]
    exact hvalue

theorem sizeOf_lt_of_mem_entries {entries : List (Value × Value)} {e : Value × Value}
    (he : e ∈ entries) : sizeOf e.1 < sizeOf entries ∧ sizeOf e.2 < sizeOf entries := by
  have hlt := List.sizeOf_lt_of_mem he
  obtain ⟨k, v⟩ := e
  simp only [Prod.mk.sizeOf_spec] at hlt ⊢
  omega

/-- **A value equals itself**, unless a NaN is inside. -/
theorem equal_self : (v : Value) → v.IsNaNFree → v.KeysDiffer → equal v v = true
  | .null, _, _ => by simp [equal, kind]
  | .bool b, _, _ => by simp [equal, equalInteger]
  | .integer n, _, _ => by simp [equal, equalInteger]
  | .float x, hnan, _ => by
    rw [equal]
    exact equalFloat_self fun hx => hnan (hx ▸ .self)
  | .string s, _, _ => by simp [equal]
  | .bytes bs, _, _ => by simp [equal, equalBytes]
  | .byteArray bs, _, _ => by simp [equal, equalBytes]
  | .tuple items, hnan, hkeys => by
    rw [equal]
    exact equalLists_self fun v hv => equal_self v (hnan.of_inside (.tuple hv .self))
      (hkeys.of_inside (.tuple hv .self))
  | .set items, hnan, hkeys => by
    rw [equal, beq_self_eq_true, Bool.true_and]
    exact equalSubset_of_subset (fun v hv => equal_self v (hnan.of_inside (.set hv .self))
      (hkeys.of_inside (.set hv .self))) fun v hv => hv
  | .list items, hnan, hkeys => by
    rw [equal]
    exact equalLists_self fun v hv => equal_self v (hnan.of_inside (.list hv .self))
      (hkeys.of_inside (.list hv .self))
  | .dict entries, hnan, hkeys => by
    rw [equal, beq_self_eq_true, Bool.true_and]
    refine equalEntries_of_subset (hkeys entries .self) (fun e he => ?_) fun e he => he
    have hsize := sizeOf_lt_of_mem_entries he
    constructor
    · exact equal_self e.1 (hnan.of_inside (.key he .self))
        (hkeys.of_inside (.key he .self))
    · exact equal_self e.2 (hnan.of_inside (.entry he .self))
        (hkeys.of_inside (.entry he .self))

end CredentialCheck.Value
