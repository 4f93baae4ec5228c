import CredentialCheck.Document.Field

/-!
# Dictionaries with texts as keys

A JSON object, and the keys of a credential definition, are dictionaries whose keys are texts. On
such dictionaries putting in an entry is `putEntry`, and looking one up is `List.lookup`.

* `textEntries` makes the entries of such a dictionary from pairs of a text and a value.
* `dictOf_textEntries`: a later entry replaces an earlier one with the same key, and the keys that
  are left differ (`nodup_putEntries`).
* `dictOf_of_nodup`: entries with different keys stay as they are.
-/

namespace CredentialCheck

open Document

/-- The entries of a dictionary whose keys are texts. -/
def textEntries (entries : List (String × Value)) : List (Value × Value) :=
  entries.map fun e => (.string e.1, e.2)

theorem textEntries_cons (e : String × Value) (es : List (String × Value)) :
    textEntries (e :: es) = (.string e.1, e.2) :: textEntries es := rfl

@[simp] theorem isEmpty_textEntries (entries : List (String × Value)) :
    (textEntries entries).isEmpty = entries.isEmpty := List.isEmpty_map

theorem textEntries_injective {a b : List (String × Value)} (h : textEntries a = textEntries b) :
    a = b := by
  refine List.map_inj_right (fun x y hxy => ?_) |>.1 h
  simp only [Prod.mk.injEq, Value.string.injEq] at hxy
  exact Prod.ext hxy.1 hxy.2

/-- Among keys that are texts, a key is looked up by its text. -/
theorem lookup?_textEntries (entries : List (String × Value)) (key : String) :
    Value.lookup? (textEntries entries) (.string key) = entries.lookup key := by
  induction entries with
  | nil => rfl
  | cons e es ih =>
    rw [Value.lookup?] at ih
    rw [Value.lookup?, textEntries_cons, List.find?_cons, List.lookup_cons]
    simp only [Value.equal]
    cases key == e.1 with
    | true => rfl
    | false => exact ih

/-! ## Putting in entries -/

/-- Entries put in one by one, in front of which others have been put in. -/
def putEntries (acc entries : List (String × Value)) : List (String × Value) :=
  entries.foldl (fun acc e => putEntry e.1 e.2 acc) acc

theorem putEntries_cons (acc : List (String × Value)) (e : String × Value)
    (es : List (String × Value)) :
    putEntries acc (e :: es) = putEntries (putEntry e.1 e.2 acc) es :=
  rfl

theorem insertEntry_textEntries (acc : List (String × Value)) (key : String) (v : Value) :
    Value.insertEntry (textEntries acc) (.string key) v = textEntries (putEntry key v acc) := by
  induction acc with
  | nil => rfl
  | cons e es ih =>
    rw [textEntries_cons, Value.insertEntry, putEntry, ih]
    simp only [Value.equal]
    by_cases hkey : key = e.1
    · subst hkey
      rw [if_pos (beq_self_eq_true _), if_pos (beq_self_eq_true _)]
      rfl
    · rw [if_neg (by simpa using hkey), if_neg (by simpa using fun h => hkey h.symm)]
      rfl

/-- **A dictionary made of entries with texts as keys.** -/
theorem dictOf_textEntries (entries : List (String × Value)) :
    Value.dictOf (textEntries entries) = .dict (textEntries (putEntries [] entries)) := by
  have hfold (acc : List (String × Value)) :
      (textEntries entries).foldl (fun acc e => Value.insertEntry acc e.1 e.2) (textEntries acc) =
        textEntries (putEntries acc entries) := by
    induction entries generalizing acc with
    | nil => rfl
    | cons e es ih => rw [textEntries_cons, List.foldl_cons, insertEntry_textEntries, ih,
        putEntries_cons]
  exact congrArg Value.dict (hfold [])

theorem mem_putEntry {key : String} {v : Value} {acc : List (String × Value)} {e : String × Value}
    (h : e ∈ putEntry key v acc) : e = (key, v) ∨ e ∈ acc := by
  induction acc with
  | nil => exact .inl (List.mem_singleton.1 h)
  | cons d ds ih =>
    rw [putEntry] at h
    split at h
    · rcases List.mem_cons.1 h with rfl | h
      · exact .inl rfl
      · exact .inr (List.mem_cons_of_mem d h)
    · rcases List.mem_cons.1 h with rfl | h
      · exact .inr List.mem_cons_self
      · exact (ih h).imp_right (List.mem_cons_of_mem d)

/-- No entry is left that has not been put in. -/
theorem mem_putEntries {acc entries : List (String × Value)} {e : String × Value}
    (h : e ∈ putEntries acc entries) : e ∈ acc ∨ e ∈ entries := by
  induction entries generalizing acc with
  | nil => exact .inl h
  | cons d ds ih =>
    rcases ih h with h | h
    · rcases mem_putEntry h with rfl | h
      · exact .inr List.mem_cons_self
      · exact .inl h
    · exact .inr (List.mem_cons_of_mem d h)

theorem nodup_putEntry {key : String} {v : Value} {acc : List (String × Value)}
    (h : (acc.map Prod.fst).Nodup) : ((putEntry key v acc).map Prod.fst).Nodup := by
  induction acc with
  | nil => simp [putEntry]
  | cons e es ih =>
    rw [List.map_cons, List.nodup_cons] at h
    rw [putEntry]
    split
    · next heq =>
      rw [List.map_cons, List.nodup_cons, ← beq_iff_eq.1 heq]
      exact h
    · next hne =>
      rw [List.map_cons, List.nodup_cons]
      refine ⟨fun hmem => ?_, ih h.2⟩
      obtain ⟨d, hd, heq⟩ := List.mem_map.1 hmem
      rcases mem_putEntry hd with rfl | hd
      · exact hne (beq_iff_eq.2 heq.symm)
      · exact h.1 (List.mem_map.2 ⟨d, hd, heq⟩)

/-- The keys that are left differ. -/
theorem nodup_putEntries {acc : List (String × Value)} (h : (acc.map Prod.fst).Nodup)
    (entries : List (String × Value)) : ((putEntries acc entries).map Prod.fst).Nodup := by
  induction entries generalizing acc with
  | nil => exact h
  | cons e es ih => exact ih (nodup_putEntry h)

/-! ## Different keys -/

theorem putEntry_of_not_mem {key : String} {acc : List (String × Value)}
    (h : key ∉ acc.map Prod.fst) (v : Value) : putEntry key v acc = acc ++ [(key, v)] := by
  induction acc with
  | nil => rfl
  | cons e es ih =>
    rw [List.map_cons, List.mem_cons, not_or] at h
    have hkey : (e.1 == key) = false := beq_eq_false_iff_ne.2 fun heq => h.1 heq.symm
    rw [putEntry, hkey, ih h.2]
    rfl

/-- Entries with different keys stay as they are. -/
theorem putEntries_of_nodup (acc : List (String × Value)) {entries : List (String × Value)}
    (h : ((acc ++ entries).map Prod.fst).Nodup) : putEntries acc entries = acc ++ entries := by
  induction entries generalizing acc with
  | nil => rw [List.append_nil]; rfl
  | cons e es ih =>
    have hkey : e.1 ∉ acc.map Prod.fst := by
      rw [List.map_append, List.map_cons] at h
      exact fun hmem => (List.nodup_append.1 h).2.2 _ hmem _ List.mem_cons_self rfl
    rw [putEntries_cons, putEntry_of_not_mem hkey, ih _ (by simpa using h), List.append_assoc,
      List.singleton_append]

theorem dictOf_of_nodup {entries : List (String × Value)} (h : (entries.map Prod.fst).Nodup) :
    Value.dictOf (textEntries entries) = .dict (textEntries entries) := by
  rw [dictOf_textEntries, putEntries_of_nodup [] h, List.nil_append]

end CredentialCheck
