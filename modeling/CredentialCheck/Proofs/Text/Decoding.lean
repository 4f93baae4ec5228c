import CredentialCheck.Proofs.Text.Utf8
import Mathlib.Tactic.SplitIfs

/-!
# What is read as UTF-8

The bytes that `decode` reads are just those that `encode` writes. A reader between characters that
comes to an end has the bytes of a character in front of it: the ranges for the second byte keep out
spellings that are too long and the surrogates, so the payload bits make up the number of a
character, and this is the spelling of that character.

* `exists_encodeChar_of_decodeFrom` is about one character.
* `decode_eq_ok_iff` is the statement about texts.
-/

namespace CredentialCheck

/-- What has been mapped to a result was a result. -/
theorem exists_of_map_eq_ok {ε α β : Type} {f : α → β} {x : Except ε α} {b : β}
    (h : x.map f = .ok b) : ∃ a, x = .ok a ∧ f a = b := by
  cases x with
  | error e => cases h
  | ok a => exact ⟨a, rfl, Except.ok.inj h⟩

namespace Text.Utf8

variable {n offset : Nat} {bs : List UInt8} {cs : List Char}

/-! ## Numbers of characters -/

theorem toNat_ofNat_of_valid (h : n < 0xD800 ∨ 0xDFFF < n ∧ n < 0x110000) :
    (Char.ofNat n).toNat = n := by
  rw [Char.ofNat, dif_pos h]
  rfl

theorem ofNat_eq_of_toNat {b : UInt8} (h : b.toNat = n) : UInt8.ofNat n = b := by
  rw [← h, UInt8.ofNat_toNat]

/-- The bytes of the character with a number in the range of two bytes. -/
theorem encodeChar_two {a b : UInt8} (ha : a.toNat = 0xC0 + n / 0x40)
    (hb : b.toNat = 0x80 + n % 0x40) (h : 0x80 ≤ n) (h' : n < 0x800) :
    encodeChar (Char.ofNat n) = [a, b] := by
  simp only [encodeChar, toNat_ofNat_of_valid (.inl (show n < 0xD800 by omega))]
  rw [if_neg (by omega), if_pos h', ofNat_eq_of_toNat ha, ofNat_eq_of_toNat hb]

theorem encodeChar_three {a b c : UInt8} (ha : a.toNat = 0xE0 + n / 0x1000)
    (hb : b.toNat = 0x80 + n / 0x40 % 0x40) (hc : c.toNat = 0x80 + n % 0x40) (h : 0x800 ≤ n)
    (h' : n < 0xD800 ∨ 0xDFFF < n ∧ n < 0x10000) : encodeChar (Char.ofNat n) = [a, b, c] := by
  have hvalid : n < 0xD800 ∨ 0xDFFF < n ∧ n < 0x110000 := by omega
  simp only [encodeChar, toNat_ofNat_of_valid hvalid]
  rw [if_neg (by omega), if_neg (by omega), if_pos (by omega), ofNat_eq_of_toNat ha,
    ofNat_eq_of_toNat hb, ofNat_eq_of_toNat hc]

theorem encodeChar_four {a b c d : UInt8} (ha : a.toNat = 0xF0 + n / 0x40000)
    (hb : b.toNat = 0x80 + n / 0x1000 % 0x40) (hc : c.toNat = 0x80 + n / 0x40 % 0x40)
    (hd : d.toNat = 0x80 + n % 0x40) (h : 0x10000 ≤ n) (h' : n < 0x110000) :
    encodeChar (Char.ofNat n) = [a, b, c, d] := by
  simp only [encodeChar, toNat_ofNat_of_valid (.inr (show 0xDFFF < n ∧ n < 0x110000 by omega))]
  rw [if_neg (by omega), if_neg (by omega), if_neg (by omega), ofNat_eq_of_toNat ha,
    ofNat_eq_of_toNat hb, ofNat_eq_of_toNat hc, ofNat_eq_of_toNat hd]

/-! ## One character -/

/-- What a first byte announces: no bytes to come, or so many, of which the first leaves out what is
too long, a surrogate, or beyond the last character. -/
theorem start?_cases {b : UInt8} {p : Pending} (h : Pending.start? b = some p) :
    (b.toNat < 0x80 ∧ p.value = b.toNat ∧ p.owed = 0) ∨
    (0xC2 ≤ b.toNat ∧ b.toNat < 0xE0 ∧ p.value = b.toNat - 0xC0 ∧ p.owed = 1 ∧
      0x80 ≤ p.low ∧ p.high ≤ 0xBF) ∨
    (0xE0 ≤ b.toNat ∧ b.toNat < 0xF0 ∧ p.value = b.toNat - 0xE0 ∧ p.owed = 2 ∧
      0x80 ≤ p.low ∧ p.high ≤ 0xBF ∧ (b.toNat = 0xE0 → 0xA0 ≤ p.low) ∧
      (b.toNat = 0xED → p.high ≤ 0x9F)) ∨
    (0xF0 ≤ b.toNat ∧ b.toNat ≤ 0xF4 ∧ p.value = b.toNat - 0xF0 ∧ p.owed = 3 ∧
      0x80 ≤ p.low ∧ p.high ≤ 0xBF ∧ (b.toNat = 0xF0 → 0x90 ≤ p.low) ∧
      (b.toNat = 0xF4 → p.high ≤ 0x8F)) := by
  unfold Pending.start? at h
  generalize b.toNat = n at h ⊢
  dsimp only at h
  split_ifs at h <;> cases h <;> dsimp only <;> omega

/-- A character waits for a byte in its range. -/
theorem exists_next_of_decodeFrom {p : Pending} (h : decodeFrom offset (some p) bs = .ok cs) :
    ∃ b tail, bs = b :: tail ∧ p.low ≤ b.toNat ∧ b.toNat ≤ p.high ∧
      if p.owed - 1 = 0 then
        ∃ o more, cs = Char.ofNat (p.value * 0x40 + (b.toNat - 0x80)) :: more ∧
          decodeFrom o none tail = .ok more
      else
        decodeFrom offset (some ⟨p.bytes ++ [b], p.value * 0x40 + (b.toNat - 0x80), p.owed - 1,
          0x80, 0xBF⟩) tail = .ok cs := by
  cases bs with
  | nil => cases h
  | cons b tail =>
    rw [decodeFrom] at h
    by_cases hrange : p.low ≤ b.toNat ∧ b.toNat ≤ p.high
    · simp only [Pending.next?, if_pos hrange] at h
      refine ⟨b, tail, rfl, hrange.1, hrange.2, ?_⟩
      split at h
      · next howed =>
        rw [if_pos howed]
        obtain ⟨more, hmore, rfl⟩ := exists_of_map_eq_ok h
        exact ⟨_, more, rfl, hmore⟩
      · next howed => rwa [if_neg howed]
    · simp only [Pending.next?, if_neg hrange] at h
      cases h

/-- In front of a reader between characters that comes to an end stand the bytes of a character. -/
theorem exists_encodeChar_of_decodeFrom {b : UInt8}
    (h : decodeFrom offset none (b :: bs) = .ok cs) :
    ∃ c tail o more, b :: bs = encodeChar c ++ tail ∧ cs = c :: more ∧
      decodeFrom o none tail = .ok more := by
  rw [decodeFrom] at h
  cases hstart : Pending.start? b with
  | none =>
    rw [hstart] at h
    cases h
  | some p =>
    simp only [hstart] at h
    -- one way through the reader's states for each length
    rcases start?_cases hstart with ⟨hb, hvalue, howed⟩ |
      ⟨hb, hb', hvalue, howed, hlow, hhigh⟩ | ⟨hb, hb', hvalue, howed, hlow, hhigh, hlong, hsurr⟩ |
      ⟨hb, hb', hvalue, howed, hlow, hhigh, hlong, hlast⟩
    · rw [if_pos howed] at h
      obtain ⟨more, hmore, rfl⟩ := exists_of_map_eq_ok h
      refine ⟨_, bs, _, more, ?_, rfl, hmore⟩
      have hnumber : (Char.ofNat p.value).toNat = b.toNat := by
        rw [hvalue, toNat_ofNat_of_valid (.inl (by omega))]
      rw [encodeChar_of_lt (by omega), hnumber, UInt8.ofNat_toNat, List.singleton_append]
    · rw [if_neg (by omega)] at h
      obtain ⟨b₁, bs, rfl, hlow₁, hhigh₁, h⟩ := exists_next_of_decodeFrom h
      rw [if_pos (by omega)] at h
      obtain ⟨o, more, rfl, hmore⟩ := h
      refine ⟨_, bs, o, more, ?_, rfl, hmore⟩
      rw [encodeChar_two (a := b) (b := b₁) (by omega) (by omega) (by omega) (by omega)]
      rfl
    · rw [if_neg (by omega)] at h
      obtain ⟨b₁, bs, rfl, hlow₁, hhigh₁, h⟩ := exists_next_of_decodeFrom h
      rw [if_neg (by omega)] at h
      obtain ⟨b₂, bs, rfl, hlow₂, hhigh₂, h⟩ := exists_next_of_decodeFrom h
      simp only at hlow₂ hhigh₂ h
      rw [if_pos (by omega)] at h
      obtain ⟨o, more, rfl, hmore⟩ := h
      refine ⟨_, bs, o, more, ?_, rfl, hmore⟩
      rw [encodeChar_three (a := b) (b := b₁) (c := b₂) (by omega) (by omega) (by omega) (by omega)
        (by omega)]
      rfl
    · rw [if_neg (by omega)] at h
      obtain ⟨b₁, bs, rfl, hlow₁, hhigh₁, h⟩ := exists_next_of_decodeFrom h
      rw [if_neg (by omega)] at h
      obtain ⟨b₂, bs, rfl, hlow₂, hhigh₂, h⟩ := exists_next_of_decodeFrom h
      simp only at hlow₂ hhigh₂ h
      rw [if_neg (by omega)] at h
      obtain ⟨b₃, bs, rfl, hlow₃, hhigh₃, h⟩ := exists_next_of_decodeFrom h
      simp only at hlow₃ hhigh₃ h
      rw [if_pos (by omega)] at h
      obtain ⟨o, more, rfl, hmore⟩ := h
      refine ⟨_, bs, o, more, ?_, rfl, hmore⟩
      rw [encodeChar_four (a := b) (b := b₁) (c := b₂) (d := b₃) (by omega) (by omega) (by omega)
        (by omega) (by omega) (by omega)]
      rfl

/-! ## Texts -/

theorem encode_of_decodeFrom (h : decodeFrom offset none bs = .ok cs) : bs = encode cs := by
  induction cs generalizing offset bs with
  | nil =>
    cases bs with
    | nil => rfl
    | cons b bs =>
      obtain ⟨c, tail, o, more, -, hcs, -⟩ := exists_encodeChar_of_decodeFrom h
      cases hcs
  | cons c cs ih =>
    cases bs with
    | nil => cases h
    | cons b bs =>
      obtain ⟨c, tail, o, more, hbytes, hcs, hmore⟩ := exists_encodeChar_of_decodeFrom h
      cases hcs
      rw [hbytes, ih hmore, encode_cons]

/-- **Bytes are read as a text just if they are its bytes.** -/
theorem decode_eq_ok_iff : decode bs = .ok cs ↔ bs = encode cs := by
  constructor
  · exact encode_of_decodeFrom
  · rintro rfl
    exact decode_encode cs

theorem encode_injective {s t : List Char} (h : encode s = encode t) : s = t := by
  have hs := decode_encode s
  rw [h, decode_encode] at hs
  exact (Except.ok.inj hs).symm

/-! ## Continuation bytes -/

/-- No character begins with a continuation byte. -/
theorem head_encodeChar (c : Char) :
    ∃ b tail, encodeChar c = b :: tail ∧ (b.toNat < 0x80 ∨ 0xC0 ≤ b.toNat) ∧
      ∀ d ∈ tail, 0x80 ≤ d.toNat ∧ d.toNat < 0xC0 := by
  have hvalid := toNat_char c
  rw [encodeChar]
  generalize c.toNat = n at hvalid
  have hcontinues {m : Nat} (hm : m < 0x40) :
      0x80 ≤ (UInt8.ofNat (0x80 + m)).toNat ∧ (UInt8.ofNat (0x80 + m)).toNat < 0xC0 := by
    rw [toNat_ofNat_of_lt (by omega)]
    omega
  split
  · refine ⟨_, _, rfl, .inl ?_, by simp⟩
    rw [toNat_ofNat_of_lt (by omega)]
    assumption
  split
  · refine ⟨_, _, rfl, .inr ?_, ?_⟩
    · rw [toNat_ofNat_of_lt (by omega)]
      omega
    · rintro d (_ | ⟨_, ⟨⟩⟩)
      exact hcontinues (by omega)
  split
  · refine ⟨_, _, rfl, .inr ?_, ?_⟩
    · rw [toNat_ofNat_of_lt (by omega)]
      omega
    · rintro d (_ | ⟨_, _ | ⟨_, ⟨⟩⟩⟩) <;> exact hcontinues (by omega)
  · refine ⟨_, _, rfl, .inr ?_, ?_⟩
    · rw [toNat_ofNat_of_lt (by omega)]
      omega
    · rintro d (_ | ⟨_, _ | ⟨_, _ | ⟨_, ⟨⟩⟩⟩⟩) <;> exact hcontinues (by omega)

end Text.Utf8

end CredentialCheck
