import CredentialCheck.Proofs.Json.Scalars
import CredentialCheck.Proofs.Text.Decoding

/-!
# What is read as white space and numbers

The other direction of reading scalars: what a reader takes off the front of a text is the UTF-8 of
a text that the grammar derives, with the value that the reader returns. The bytes in question are
all ASCII, so a byte is a character.

* `exists_blank`, `readWord_sound` and `readNumber_sound` are the main statements.
-/

namespace CredentialCheck.Json

open Text Grammar

variable {bs rest : List UInt8}

/-! ## Bytes of ASCII -/

/-- A byte of ASCII in front of the bytes of a text is a character in front of the text. -/
theorem encode_ofNat_cons {b : UInt8} (h : b.toNat < 0x80) (s : List Char) :
    Utf8.encode (Char.ofNat b.toNat :: s) = b :: Utf8.encode s := by
  have hnumber := Utf8.toNat_ofNat_of_valid (.inl (show b.toNat < 0xD800 by omega))
  rw [encode_cons_of_lt (by omega), hnumber, UInt8.ofNat_toNat]

theorem isDigit_iff {b : UInt8} : isDigit b = true ↔ 0x30 ≤ b.toNat ∧ b.toNat ≤ 0x39 := by
  simp only [isDigit, Bool.and_eq_true, decide_eq_true_eq, UInt8.le_iff_toNat_le]
  rfl

/-- The character of a digit is a digit. -/
theorem isDigit_ofNat_toNat {b : UInt8} (h : isDigit b = true) :
    (Char.ofNat b.toNat).isDigit = true := by
  obtain ⟨hlow, hhigh⟩ := isDigit_iff.1 h
  have hnumber : (Char.ofNat b.toNat).val.toNat = b.toNat :=
    Utf8.toNat_ofNat_of_valid (.inl (by omega))
  simp only [Char.isDigit, Bool.and_eq_true, decide_eq_true_eq, ge_iff_le, UInt32.le_iff_toNat_le,
    hnumber]
  exact ⟨hlow, hhigh⟩

theorem exists_encode_of_isDigit (h : ∀ b ∈ bs, isDigit b = true) :
    ∃ s, (∀ c ∈ s, c.isDigit = true) ∧ Utf8.encode s = bs := by
  induction bs with
  | nil => exact ⟨[], by simp, rfl⟩
  | cons b bs ih =>
    obtain ⟨s, hs, hbytes⟩ := ih fun d hd => h d (List.mem_cons_of_mem b hd)
    have hb := h b List.mem_cons_self
    refine ⟨Char.ofNat b.toNat :: s, ?_, ?_⟩
    · intro c hc
      rcases List.mem_cons.1 hc with rfl | hc
      · exact isDigit_ofNat_toNat hb
      · exact hs c hc
    · rw [encode_ofNat_cons (by have := isDigit_iff.1 hb; omega), hbytes]

/-! ## White space and words -/

/-- What is passed over is white space. -/
theorem exists_blank (bs : List UInt8) : ∃ a, Blank a ∧ bs = Utf8.encode a ++ skipBlank bs := by
  induction bs with
  | nil => exact ⟨[], by simp [Blank], rfl⟩
  | cons b bs ih =>
    by_cases hb : isBlank b = true
    · obtain ⟨a, ha, hbytes⟩ := ih
      have hmem : b = 0x20 ∨ b = 0x09 ∨ b = 0x0A ∨ b = 0x0D := by
        simpa only [isBlank, Bool.or_eq_true, beq_iff_eq, or_assoc] using hb
      refine ⟨Char.ofNat b.toNat :: a, ?_, ?_⟩
      · intro c hc
        rcases List.mem_cons.1 hc with rfl | hc
        · rcases hmem with rfl | rfl | rfl | rfl <;> decide
        · exact ha c hc
      · have hlt : b.toNat < 0x80 := by rcases hmem with rfl | rfl | rfl | rfl <;> decide
        rw [encode_ofNat_cons hlt, skipBlank, List.dropWhile_cons_of_pos hb, List.cons_append]
        exact congrArg _ hbytes
    · exact ⟨[], by simp [Blank], by simp [skipBlank_cons (by simpa using hb), Utf8.encode_nil]⟩

/-- A word has been read. -/
theorem readWord_sound {word : List Char} (hword : word.all (·.toNat < 0x80) = true)
    (h : readWord word bs = .ok rest) : bs = Utf8.encode word ++ rest := by
  induction word generalizing bs with
  | nil => exact Except.ok.inj h
  | cons c word ih =>
    cases bs with
    | nil => cases h
    | cons b bs =>
      rw [readWord] at h
      split at h
      · next hb =>
        simp only [List.all_cons, Bool.and_eq_true, decide_eq_true_eq] at hword
        rw [encode_cons_of_lt hword.1, ← hb, UInt8.ofNat_toNat, List.cons_append, ← ih hword.2 h]
      · cases h

/-! ## Numbers -/

theorem readDigits_sound {ds : List UInt8} (h : readDigits bs = .ok (ds, rest)) :
    ∃ s, Digits s ∧ Utf8.encode s = ds ∧ bs = ds ++ rest := by
  cases bs with
  | nil => cases h
  | cons b bs =>
    rw [readDigits] at h
    split at h
    · next hb =>
      cases h
      have hall : ∀ d ∈ b :: bs.takeWhile isDigit, isDigit d = true := by
        intro d hd
        rcases List.mem_cons.1 hd with rfl | hd
        · exact hb
        · exact List.all_eq_true.1 List.all_takeWhile d hd
      obtain ⟨s, hs, hbytes⟩ := exists_encode_of_isDigit hall
      refine ⟨s, ⟨?_, hs⟩, hbytes, ?_⟩
      · rintro rfl
        cases hbytes
      · rw [List.cons_append, List.takeWhile_append_dropWhile]
    · cases h

/-- Digits that have been read as a part of a number. -/
theorem map_readDigits_sound {α : Type} {f : List UInt8 → α} {part : α}
    (h : ((readDigits bs).map fun (digits, bs) => (f digits, bs)) = .ok (part, rest)) :
    ∃ s, Digits s ∧ part = f (Utf8.encode s) ∧ bs = Utf8.encode s ++ rest := by
  obtain ⟨⟨digits, rest'⟩, hread, heq⟩ := exists_of_map_eq_ok h
  cases heq
  obtain ⟨s, hs, rfl, hbytes⟩ := readDigits_sound hread
  exact ⟨s, hs, rfl, hbytes⟩

theorem readFraction_sound {fraction : Option (List UInt8)}
    (h : readFraction bs = .ok (fraction, rest)) :
    ∃ f places, Fraction f places ∧ fraction = places.map Utf8.encode ∧
      bs = Utf8.encode f ++ rest := by
  unfold readFraction at h
  split at h
  · obtain ⟨s, hs, rfl, rfl⟩ := map_readDigits_sound h
    exact ⟨'.' :: s, some s, .present hs, rfl, by rw [encode_cons_of_lt (by decide)]; rfl⟩
  · cases h
    exact ⟨[], none, .absent, rfl, rfl⟩

/-- The byte of the mark of an exponent. -/
theorem exists_mark {b : UInt8} (hb : b = 0x65 ∨ b = 0x45) :
    ∃ mark, mark ∈ ['e', 'E'] ∧ ∀ s, Utf8.encode (mark :: s) = b :: Utf8.encode s := by
  rcases hb with rfl | rfl
  · exact ⟨'e', by simp, fun s => rfl⟩
  · exact ⟨'E', by simp, fun s => rfl⟩

theorem readExponent_sound {exponent : Option Int} (h : readExponent bs = .ok (exponent, rest)) :
    ∃ x, Exponent x exponent ∧ bs = Utf8.encode x ++ rest := by
  cases bs with
  | nil =>
    cases h
    exact ⟨[], .absent, rfl⟩
  | cons b bs =>
    unfold readExponent at h
    dsimp only at h
    split at h
    · next hb =>
      obtain ⟨mark, hmark, hbytes⟩ := exists_mark hb
      split at h
      · obtain ⟨s, hs, rfl, rfl⟩ :=
          map_readDigits_sound (f := fun digits => some (-(digitsFrom 0 digits : Int))) h
        rw [digitsFrom_zero_encode hs.2]
        refine ⟨mark :: '-' :: s, .minus hmark hs, ?_⟩
        rw [hbytes, encode_cons_of_lt (by decide)]
        rfl
      · obtain ⟨s, hs, rfl, rfl⟩ :=
          map_readDigits_sound (f := fun digits => some (digitsFrom 0 digits : Int)) h
        rw [digitsFrom_zero_encode hs.2]
        refine ⟨mark :: '+' :: s, .plus hmark hs, ?_⟩
        rw [hbytes, encode_cons_of_lt (by decide)]
        rfl
      · obtain ⟨s, hs, rfl, rfl⟩ :=
          map_readDigits_sound (f := fun digits => some (digitsFrom 0 digits : Int)) h
        rw [digitsFrom_zero_encode hs.2]
        exact ⟨mark :: s, .plain hmark hs, by rw [hbytes]; rfl⟩
    · cases h
      exact ⟨[], .absent, rfl⟩

section

variable {maxDigits : Nat} (hmax : 0 < maxDigits)

include hmax

/-- A zero alone is not counted, so there has to be room for one digit. -/
theorem readWhole_sound {ds : List UInt8} (h : readWhole maxDigits bs = .ok (ds, rest)) :
    ∃ w, Whole w ∧ w.length ≤ maxDigits ∧ Utf8.encode w = ds ∧ bs = ds ++ rest := by
  have hzero : Whole ['0'] ∧ ['0'].length ≤ maxDigits ∧ Utf8.encode ['0'] = [0x30] :=
    ⟨⟨⟨by simp, by simp⟩, fun _ => rfl⟩, hmax, rfl⟩
  cases bs with
  | nil => cases h
  | cons b bs =>
    unfold readWhole at h
    dsimp only at h
    split at h
    · next hb =>
      subst hb
      split at h
      · split at h
        · cases h
        · cases h
          exact ⟨['0'], hzero.1, hzero.2.1, hzero.2.2, rfl⟩
      · cases h
        exact ⟨['0'], hzero.1, hzero.2.1, hzero.2.2, rfl⟩
    split at h
    · next hne hb =>
      split at h
      · cases h
      · next hlength =>
        have hread : readDigits (b :: bs) =
            .ok (b :: bs.takeWhile isDigit, bs.dropWhile isDigit) := by
          rw [readDigits, if_pos hb]
        cases h
        obtain ⟨w, hw, hbytes, hsplit⟩ := readDigits_sound hread
        refine ⟨w, ⟨hw, ?_⟩, ?_, hbytes, hsplit⟩
        · intro hhead
          cases w with
          | nil => cases hhead
          | cons c w =>
            cases hhead
            exact absurd (List.cons.inj hbytes).1.symm hne
        · rw [← hbytes, length_encode_of_isDigit hw.2] at hlength
          omega
    · cases h

theorem readMagnitude_sound {negative : Bool} {v : Value}
    (h : readMagnitude maxDigits negative bs = .ok (v, rest)) :
    ∃ w f x places exponent, Whole w ∧ w.length ≤ maxDigits ∧ Fraction f places ∧
      Exponent x exponent ∧ v = numberOfParts negative w places exponent ∧
      bs = Utf8.encode (w ++ f ++ x) ++ rest := by
  unfold readMagnitude at h
  split at h
  · cases h
  next whole bs' hwhole =>
  split at h
  · cases h
  next fraction bs'' hfraction =>
  split at h
  · cases h
  next exponent bs''' hexponent =>
  obtain ⟨w, hw, hlength, rfl, rfl⟩ := readWhole_sound hmax hwhole
  obtain ⟨f, places, hf, rfl, rfl⟩ := readFraction_sound hfraction
  obtain ⟨x, hx, rfl⟩ := readExponent_sound hexponent
  have hplaces : (places.map Utf8.encode).getD [] = Utf8.encode (places.getD []) := by
    cases places <;> rfl
  have hvalue : v = numberOfParts negative w places exponent ∧ rest = bs''' := by
    simp only [Option.isNone_map, hplaces, length_encode_of_isDigit hf.isDigit,
      digitsFrom_zero_encode hw.1.2, digitsFrom_numberOfDigits w hf.isDigit] at h
    unfold numberOfParts
    split at h <;> cases h
    · next hnone => exact ⟨(if_pos hnone).symm, rfl⟩
    · next hsome => exact ⟨(if_neg hsome).symm, rfl⟩
  obtain ⟨rfl, rfl⟩ := hvalue
  refine ⟨w, f, x, places, exponent, hw, hlength, hf, hx, rfl, ?_⟩
  simp only [Utf8.encode_append, List.append_assoc]

/-- A number has been read, or infinity with a sign. -/
theorem readNumber_sound {v : Value} (h : readNumber maxDigits bs = .ok (v, rest)) :
    ∃ s, (NumberText maxDigits s v ∨ s = "-Infinity".toList ∧ v = .float (.infinite true)) ∧
      bs = Utf8.encode s ++ rest := by
  unfold readNumber at h
  split at h
  · next bs =>
    obtain ⟨rest', hread, heq⟩ := exists_of_map_eq_ok h
    cases heq
    refine ⟨_, .inr ⟨rfl, rfl⟩, ?_⟩
    rw [readWord_sound (by decide) hread]
    rfl
  · next bs _ =>
    obtain ⟨w, f, x, places, exponent, hw, hlength, hf, hx, rfl, rfl⟩ := readMagnitude_sound hmax h
    refine ⟨_, .inl (.signed hw hlength hf hx), ?_⟩
    rw [encode_cons_of_lt (by decide)]
    rfl
  · obtain ⟨w, f, x, places, exponent, hw, hlength, hf, hx, rfl, rfl⟩ := readMagnitude_sound hmax h
    exact ⟨_, .inl (.unsigned hw hlength hf hx), rfl⟩

end

end CredentialCheck.Json
