import CredentialCheck.Proofs.Json.Complete
import CredentialCheck.Proofs.Json.SoundStrings

/-!
# What is read is in the grammar

Every text that is read is one of the grammar, in UTF-8, and gives the value that it spells. The
induction is on the depth of nesting, as for the other direction: a reader that is `Sound` for the
values inside lists and objects makes the reader one level up sound.

* `read_sound` is the statement about whole texts, and `read_encode_eq_ok_iff` puts both
  directions together.
-/

namespace CredentialCheck.Json

open Text Grammar

/-! ## White space in front -/

theorem Grammar.Blank.append {a b : List Char} (ha : Blank a) (hb : Blank b) : Blank (a ++ b) := by
  intro c hc
  rcases List.mem_append.1 hc with hc | hc
  · exact ha c hc
  · exact hb c hc

section

variable {element : List Char → Value → Prop} {a s : List Char}

/-- White space may stand in front of the elements of a list. -/
theorem Grammar.ElementsText.blank_append (ha : Blank a) {vs : List Value}
    (h : ElementsText element s vs) : ElementsText element (a ++ s) vs := by
  cases h with
  | last hb hv hc =>
    rw [← List.append_assoc, ← List.append_assoc]
    exact .last (ha.append hb) hv hc
  | more hb hv hc ht =>
    rw [← List.append_assoc, ← List.append_assoc, ← List.append_assoc]
    exact .more (ha.append hb) hv hc ht

/-- White space may stand in front of the entries of an object. -/
theorem Grammar.EntriesText.blank_append (ha : Blank a) {es : List (Value × Value)}
    (h : EntriesText element s es) : EntriesText element (a ++ s) es := by
  cases h with
  | last hb he hc =>
    rw [← List.append_assoc, ← List.append_assoc]
    exact .last (ha.append hb) he hc
  | more hb he hc ht =>
    rw [← List.append_assoc, ← List.append_assoc, ← List.append_assoc]
    exact .more (ha.append hb) he hc ht

end

/-- A mark behind white space. -/
theorem exists_blank_of_skipBlank {bs tail : List UInt8} {b : UInt8}
    (h : skipBlank bs = b :: tail) : ∃ a, Blank a ∧ bs = Utf8.encode a ++ b :: tail := by
  obtain ⟨a, ha, hbytes⟩ := exists_blank bs
  exact ⟨a, ha, h ▸ hbytes⟩

/-- A reader that takes nothing off but values of a relation, behind any white space. -/
def Sound (element : List Char → Value → Prop) (reader : Reader Value) : Prop :=
  ∀ {bs rest v}, reader bs = .ok (v, rest) →
    ∃ a s, Blank a ∧ element s v ∧ bs = Utf8.encode (a ++ s) ++ rest

section

variable {element : List Char → Value → Prop} {reader : Reader Value}
  (hreader : Sound element reader) {bs rest : List UInt8}

include hreader

/-! ## Lists -/

theorem readElements_sound {fuel : Nat} {vs : List Value}
    (h : readElements reader fuel bs = .ok (vs, rest)) :
    ∃ s, ElementsText element s vs ∧ bs = Utf8.encode s ++ 0x5D :: rest := by
  induction fuel generalizing bs vs with
  | zero => cases h
  | succ fuel ih =>
    rw [readElements] at h
    split at h
    · cases h
    next v behind hread =>
    obtain ⟨a, s, ha, hv, rfl⟩ := hreader hread
    split at h
    · cases h
    · next rest' hskip =>
      cases h
      obtain ⟨b, hb, rfl⟩ := exists_blank_of_skipBlank hskip
      refine ⟨_, .last ha hv hb, ?_⟩
      rw [Utf8.encode_append (a ++ s), List.append_assoc]
    · next behind' hskip =>
      obtain ⟨b, hb, rfl⟩ := exists_blank_of_skipBlank hskip
      split at h
      · cases h
      · cases h
      split at h
      · cases h
      next vs' rest' hread' =>
      cases h
      obtain ⟨c, hc, hbehind⟩ := exists_blank behind'
      obtain ⟨t, ht, htail⟩ := ih hread'
      refine ⟨_, .more ha hv hb (ht.blank_append hc), ?_⟩
      rw [hbehind, htail]
      simp only [Utf8.encode_append, encode_cons_of_lt (show ','.toNat < 0x80 by decide),
        List.append_assoc, List.cons_append]
      rfl
    · cases h

theorem readList_sound {v : Value} (h : readList reader bs = .ok (v, rest)) (maxDigits : Nat) :
    ∃ s, ValueTextWith element maxDigits s v ∧ 0x5B :: bs = Utf8.encode s ++ rest := by
  unfold readList at h
  split at h
  · cases h
  · next hskip =>
    cases h
    obtain ⟨a, ha, rfl⟩ := exists_blank_of_skipBlank hskip
    refine ⟨_, .emptyList ha, ?_⟩
    rw [Utf8.encode_append, encode_cons_of_lt (by decide), List.append_assoc]
    rfl
  split at h
  · cases h
  next vs rest' hread =>
  cases h
  obtain ⟨a, ha, hbytes⟩ := exists_blank bs
  obtain ⟨s, hs, htail⟩ := readElements_sound hreader hread
  refine ⟨_, .list (hs.blank_append ha), ?_⟩
  rw [hbytes, htail, Utf8.encode_append, encode_cons_of_lt (by decide), Utf8.encode_append,
    List.append_assoc]
  simp only [List.cons_append, List.append_assoc]
  rfl

/-! ## Objects -/

/-- An entry, from behind the opening mark of its key. -/
theorem readEntry_sound {key : String} {v : Value} {behind : List UInt8}
    (hkey : readKey bs = .ok (key, behind)) (hread : reader behind = .ok (v, rest)) :
    ∃ s, EntryText element s (.string key, v) ∧ 0x22 :: bs = Utf8.encode s ++ rest := by
  unfold readKey at hkey
  split at hkey
  · cases hkey
  next str behind' hstring =>
  obtain ⟨k, cs, hk, rfl, rfl⟩ := readString_sound hstring
  split at hkey
  · cases hkey
  · next hskip =>
    cases hkey
    obtain ⟨a, ha, rfl⟩ := exists_blank_of_skipBlank hskip
    obtain ⟨b, s, hb, hv, rfl⟩ := hreader hread
    refine ⟨_, .mk hk ha hb hv, ?_⟩
    simp only [Utf8.encode_append, encode_cons_of_lt (show '"'.toNat < 0x80 by decide),
      encode_cons_of_lt (show ':'.toNat < 0x80 by decide), List.append_assoc, List.cons_append]
    rfl
  · cases hkey

theorem readEntries_sound {fuel : Nat} {es : List (Value × Value)}
    (h : readEntries reader fuel bs = .ok (es, rest)) :
    ∃ s, EntriesText element s es ∧ 0x22 :: bs = Utf8.encode s ++ 0x7D :: rest := by
  induction fuel generalizing bs es with
  | zero => cases h
  | succ fuel ih =>
    have hnil : Blank [] := fun c hc => nomatch hc
    rw [readEntries] at h
    split at h
    · cases h
    next key behind hkey =>
    split at h
    · cases h
    next v behind' hread =>
    obtain ⟨s, hs, hbytes⟩ := readEntry_sound hreader hkey hread
    split at h
    · cases h
    · next rest' hskip =>
      cases h
      obtain ⟨b, hb, rfl⟩ := exists_blank_of_skipBlank hskip
      refine ⟨_, .last hnil hs hb, ?_⟩
      rw [hbytes, List.nil_append, Utf8.encode_append, List.append_assoc]
    · next behind'' hskip =>
      obtain ⟨b, hb, rfl⟩ := exists_blank_of_skipBlank hskip
      split at h
      · cases h
      · cases h
      · next hskip' =>
        split at h
        · cases h
        next es' rest' hread' =>
        cases h
        obtain ⟨c, hc, rfl⟩ := exists_blank_of_skipBlank hskip'
        obtain ⟨t, ht, htail⟩ := ih hread'
        refine ⟨_, .more hnil hs hb (ht.blank_append hc), ?_⟩
        rw [hbytes, htail]
        simp only [Utf8.encode_append, encode_cons_of_lt (show ','.toNat < 0x80 by decide),
          List.nil_append, List.append_assoc, List.cons_append]
        rfl
      · cases h
    · cases h

theorem readObject_sound {v : Value} (h : readObject reader bs = .ok (v, rest)) (maxDigits : Nat) :
    ∃ s, ValueTextWith element maxDigits s v ∧ 0x7B :: bs = Utf8.encode s ++ rest := by
  unfold readObject at h
  split at h
  · cases h
  · next hskip =>
    cases h
    obtain ⟨a, ha, rfl⟩ := exists_blank_of_skipBlank hskip
    refine ⟨_, .emptyObject ha, ?_⟩
    rw [Utf8.encode_append, encode_cons_of_lt (by decide), List.append_assoc]
    rfl
  · next hskip =>
    split at h
    · cases h
    next es rest' hread =>
    cases h
    obtain ⟨a, ha, rfl⟩ := exists_blank_of_skipBlank hskip
    obtain ⟨s, hs, htail⟩ := readEntries_sound hreader hread
    refine ⟨_, .object (hs.blank_append ha), ?_⟩
    rw [htail, Utf8.encode_append, encode_cons_of_lt (by decide), Utf8.encode_append,
      List.append_assoc]
    simp only [List.cons_append, List.append_assoc]
    rfl
  · cases h

/-! ## Values -/

omit hreader in
/-- A word that stands for a value, from behind its first letter. -/
theorem map_readWord_sound {word : List Char} (hword : word.all (·.toNat < 0x80) = true)
    {value v : Value} (h : (readWord word bs).map (value, ·) = .ok (v, rest)) :
    v = value ∧ bs = Utf8.encode word ++ rest := by
  obtain ⟨rest', hread, heq⟩ := exists_of_map_eq_ok h
  cases heq
  exact ⟨rfl, readWord_sound hword hread⟩

/-- One level up: by the first byte of the value. -/
theorem readValueWith_sound {maxDigits : Nat} (hmax : 0 < maxDigits) :
    Sound (ValueTextWith element maxDigits) (readValueWith maxDigits reader) := by
  intro bs rest v h
  obtain ⟨a, ha, hbytes⟩ := exists_blank bs
  -- it is enough to know what stands behind the white space
  suffices hbehind : ∃ s, ValueTextWith element maxDigits s v ∧
      skipBlank bs = Utf8.encode s ++ rest by
    obtain ⟨s, hs, hskip⟩ := hbehind
    exact ⟨a, s, ha, hs, by rw [hbytes, hskip, Utf8.encode_append, List.append_assoc]⟩
  unfold readValueWith at h
  split at h
  · cases h
  · next hskip =>
    obtain ⟨rfl, rfl⟩ := map_readWord_sound (by decide) h
    exact ⟨_, .null, hskip⟩
  · next hskip =>
    obtain ⟨rfl, rfl⟩ := map_readWord_sound (by decide) h
    exact ⟨_, .true, hskip⟩
  · next hskip =>
    obtain ⟨rfl, rfl⟩ := map_readWord_sound (by decide) h
    exact ⟨_, .false, hskip⟩
  · next hskip =>
    obtain ⟨rfl, rfl⟩ := map_readWord_sound (by decide) h
    exact ⟨_, .nan, hskip⟩
  · next hskip =>
    obtain ⟨rfl, rfl⟩ := map_readWord_sound (by decide) h
    exact ⟨_, .infinity, hskip⟩
  · next hskip =>
    obtain ⟨⟨str, rest'⟩, hread, heq⟩ := exists_of_map_eq_ok h
    cases heq
    obtain ⟨s, cs, hs, rfl, rfl⟩ := readString_sound hread
    refine ⟨_, .string hs, ?_⟩
    rw [hskip, Utf8.encode_append, encode_cons_of_lt (by decide), List.append_assoc]
    rfl
  · next hskip =>
    rw [hskip]
    exact readList_sound hreader h maxDigits
  · next hskip =>
    rw [hskip]
    exact readObject_sound hreader h maxDigits
  · next hskip =>
    split at h
    · obtain ⟨s, hs, hnumber⟩ := readNumber_sound hmax h
      refine ⟨s, ?_, hskip.trans hnumber⟩
      rcases hs with hs | ⟨rfl, rfl⟩
      · exact .number hs
      · exact .negativeInfinity
    · cases h

end

/-- On no level left nothing is read. -/
theorem sound_readValue {maxDigits : Nat} (hmax : 0 < maxDigits) (depth : Nat) :
    Sound (ValueText maxDigits depth) (readValue maxDigits depth) := by
  induction depth with
  | zero =>
    intro bs rest v h
    simp only [readValue, refuse] at h
    split at h <;> cases h
  | succ depth ih => exact readValueWith_sound ih hmax

/-- **What is read is a text of the grammar, and the value is the one that it spells.** -/
theorem read_sound {limits : Limits} (hlimits : 0 < limits.digits) {bs : List UInt8} {v : Value}
    (h : read limits bs = .ok v) : ∃ s, WholeText limits s v ∧ bs = Utf8.encode s := by
  unfold read at h
  split at h
  · cases h
  next v' behind hread =>
  obtain ⟨a, s, ha, hs, rfl⟩ := sound_readValue hlimits limits.depth hread
  split at h
  · next hskip =>
    cases h
    obtain ⟨b, hb, hbytes⟩ := exists_blank behind
    refine ⟨_, .mk ha hs hb, ?_⟩
    rw [hbytes, hskip, List.append_nil, Utf8.encode_append (a ++ s)]
  · cases h

/-- **The texts that are read, and what they are read as, are those of the grammar.** -/
theorem read_encode_eq_ok_iff {limits : Limits} (hlimits : 0 < limits.digits) {s : List Char}
    {v : Value} : read limits (Utf8.encode s) = .ok v ↔ WholeText limits s v := by
  constructor
  · intro h
    obtain ⟨t, ht, hbytes⟩ := read_sound hlimits h
    rwa [Utf8.encode_injective hbytes]
  · exact read_complete

end CredentialCheck.Json
