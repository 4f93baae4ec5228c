import CredentialCheck.Json.Reader
import CredentialCheck.Proofs.Value.TextKeys

/-!
# What a JSON text can spell

The reader returns values of JSON only: null, truth values, numbers, texts, lists, and dictionaries
whose keys are texts and differ. In particular no bytes, tuples or sets come out of a text, at any
depth.

* `Value.IsJson` are these values.
* `read_isJson`: what is read is one of them.
-/

namespace CredentialCheck

/-- The values that a JSON text can spell. -/
inductive Value.IsJson : Value → Prop
  | null : IsJson .null
  | bool (b : Bool) : IsJson (.bool b)
  | integer (n : Int) : IsJson (.integer n)
  | float (x : Binary64) : IsJson (.float x)
  | string (s : String) : IsJson (.string s)
  | list {items : List Value} (h : ∀ v ∈ items, IsJson v) : IsJson (.list items)
  | dict {entries : List (String × Value)} (hkeys : (entries.map Prod.fst).Nodup)
    (h : ∀ e ∈ entries, IsJson e.2) : IsJson (.dict (textEntries entries))

namespace Json

open Value

/-- A dictionary made of texts and values of JSON. -/
theorem isJson_dictOf {entries : List (String × Value)} (h : ∀ e ∈ entries, IsJson e.2) :
    IsJson (dictOf (textEntries entries)) := by
  rw [dictOf_textEntries]
  have hkeys : (([] : List (String × Value)).map Prod.fst).Nodup := List.nodup_nil
  refine .dict (nodup_putEntries hkeys entries) fun e he => ?_
  exact h e ((mem_putEntries he).resolve_left List.not_mem_nil)

/-! ## Numbers -/

theorem readMagnitude_isJson {maxDigits : Nat} {negative : Bool} {bs rest : List UInt8} {v : Value}
    (h : readMagnitude maxDigits negative bs = .ok (v, rest)) : IsJson v := by
  unfold readMagnitude at h
  split at h
  · cases h
  split at h
  · cases h
  split at h
  · cases h
  split at h
  · cases h
    exact .integer _
  · cases h
    exact .float _

theorem readNumber_isJson {maxDigits : Nat} {bs rest : List UInt8} {v : Value}
    (h : readNumber maxDigits bs = .ok (v, rest)) : IsJson v := by
  unfold readNumber at h
  split at h
  · next bs =>
    cases hword : readWord "nfinity".toList bs with
    | error f =>
      rw [hword] at h
      cases h
    | ok rest =>
      rw [hword] at h
      cases h
      exact .float _
  · exact readMagnitude_isJson h
  · exact readMagnitude_isJson h

/-! ## Lists and objects -/

section

variable {element : Reader Value}

theorem readElements_isJson
    (helement : ∀ {bs v rest}, element bs = .ok (v, rest) → IsJson v) {fuel : Nat} :
    ∀ {bs vs rest}, readElements element fuel bs = .ok (vs, rest) → ∀ v ∈ vs, IsJson v := by
  induction fuel with
  | zero =>
    intro bs vs rest h
    cases h
  | succ fuel ih =>
    intro bs vs rest h
    unfold readElements at h
    split at h
    · cases h
    next w behind hw =>
    split at h
    · cases h
    · cases h
      intro v hv
      rw [List.mem_singleton.1 hv]
      exact helement hw
    · split at h
      · cases h
      · cases h
      · split at h
        · cases h
        next ws rest' hws =>
        cases h
        intro v hv
        rcases List.mem_cons.1 hv with rfl | hv
        · exact helement hw
        · exact ih hws v hv
    · cases h

theorem readList_isJson (helement : ∀ {bs v rest}, element bs = .ok (v, rest) → IsJson v)
    {bs rest : List UInt8} {v : Value} (h : readList element bs = .ok (v, rest)) : IsJson v := by
  unfold readList at h
  split at h
  · cases h
  · cases h
    exact .list fun v hv => nomatch hv
  · split at h
    · cases h
    next vs rest' hvs =>
    cases h
    exact .list (readElements_isJson helement hvs)

theorem readEntries_isJson
    (helement : ∀ {bs v rest}, element bs = .ok (v, rest) → IsJson v) {fuel : Nat} :
    ∀ {bs es rest}, readEntries element fuel bs = .ok (es, rest) →
      ∃ entries, es = textEntries entries ∧ ∀ e ∈ entries, IsJson e.2 := by
  induction fuel with
  | zero =>
    intro bs es rest h
    cases h
  | succ fuel ih =>
    intro bs es rest h
    unfold readEntries at h
    split at h
    · cases h
    next key behind _ =>
    split at h
    · cases h
    next w behind' hw =>
    split at h
    · cases h
    · cases h
      refine ⟨[(key, w)], rfl, fun e he => ?_⟩
      rw [List.mem_singleton.1 he]
      exact helement hw
    · split at h
      · cases h
      · cases h
      · split at h
        · cases h
        next more rest' hmore =>
        cases h
        obtain ⟨entries, rfl, hentries⟩ := ih hmore
        refine ⟨(key, w) :: entries, rfl, fun e he => ?_⟩
        rcases List.mem_cons.1 he with rfl | he
        · exact helement hw
        · exact hentries e he
      · cases h
    · cases h

theorem readObject_isJson (helement : ∀ {bs v rest}, element bs = .ok (v, rest) → IsJson v)
    {bs rest : List UInt8} {v : Value} (h : readObject element bs = .ok (v, rest)) : IsJson v := by
  unfold readObject at h
  split at h
  · cases h
  · cases h
    have hnone : ∀ e ∈ ([] : List (String × Value)), IsJson e.2 := fun e he => nomatch he
    exact isJson_dictOf hnone
  · split at h
    · cases h
    next es rest' hes =>
    cases h
    obtain ⟨entries, rfl, hentries⟩ := readEntries_isJson helement hes
    exact isJson_dictOf hentries
  · cases h

end

/-! ## Values -/

theorem readValue_isJson {digits depth : Nat} :
    ∀ {bs v rest}, readValue digits depth bs = .ok (v, rest) → IsJson v := by
  induction depth with
  | zero =>
    intro bs v rest h
    unfold readValue refuse at h
    split at h <;> cases h
  | succ depth ih =>
    intro bs v rest h
    have hmap {α : Type} {x : Except Fault α} {f : α → Value × List UInt8}
        (hf : ∀ a, IsJson (f a).1) (h : x.map f = .ok (v, rest)) : IsJson v := by
      cases x with
      | error fault => cases h
      | ok a =>
        have hv := hf a
        rw [Except.ok.inj h] at hv
        exact hv
    unfold readValue readValueWith at h
    split at h
    · cases h
    · exact hmap (fun _ => .null) h
    · exact hmap (fun _ => .bool true) h
    · exact hmap (fun _ => .bool false) h
    · exact hmap (fun _ => .float .nan) h
    · exact hmap (fun _ => .float (.infinite false)) h
    · exact hmap (fun a => .string a.1) h
    · exact readList_isJson ih h
    · exact readObject_isJson ih h
    · split at h
      · exact readNumber_isJson h
      · cases h

/-- **What is read from a text is a value of JSON.** -/
theorem read_isJson {limits : Limits} {bs : List UInt8} {v : Value}
    (h : read limits bs = .ok v) : IsJson v := by
  unfold read at h
  split at h
  · cases h
  next w rest hw =>
  split at h
  · cases h
    exact readValue_isJson hw
  · cases h

end Json

end CredentialCheck
