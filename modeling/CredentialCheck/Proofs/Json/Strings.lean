import CredentialCheck.Proofs.Json.Scalars

/-!
# Reading strings

The text between two quotation marks is gathered byte by byte, and every step of the grammar is one
of the reader's: the bytes of a plain character are taken over one after the other, an escape gives
way to the bytes of its character. What has been gathered is then the text itself in UTF-8, so the
last step of the reader, which decodes it, cannot fail.

* `readString_complete` is the main statement.
-/

namespace CredentialCheck.Json

open Text Grammar

/-! ## Escapes -/

theorem toNat_lt_of_hexValue? {c : Char} {n : Nat} (h : hexValue? c = some n) : c.toNat < 0x80 := by
  unfold hexValue? at h
  have hle {a b : Char} (hab : a ≤ b) : a.toNat ≤ b.toNat := UInt32.le_iff_toNat_le.1 hab
  split at h
  · next hc => exact Nat.lt_of_le_of_lt (hle hc.2) (by decide)
  split at h
  · next hc => exact Nat.lt_of_le_of_lt (hle hc.2) (by decide)
  split at h
  · next hc => exact Nat.lt_of_le_of_lt (hle hc.2) (by decide)
  · cases h

/-- A byte of ASCII is its character again. -/
theorem ofNat_toNat_ofNat {c : Char} (h : c.toNat < 0x80) :
    Char.ofNat (UInt8.ofNat c.toNat).toNat = c := by
  rw [Utf8.toNat_ofNat_of_lt (by omega), Char.ofNat_toNat]

theorem readHex4_complete {s : List Char} {n : Nat} (h : Hex4 s n) (rest : List UInt8) :
    readHex4 (Utf8.encode s ++ rest) = .ok (n, rest) := by
  obtain ⟨ha, hb, hc, hd⟩ := h
  have la := toNat_lt_of_hexValue? ha
  have lb := toNat_lt_of_hexValue? hb
  have lc := toNat_lt_of_hexValue? hc
  have ld := toNat_lt_of_hexValue? hd
  rw [encode_cons_of_lt la, encode_cons_of_lt lb, encode_cons_of_lt lc, encode_cons_of_lt ld]
  simp only [Utf8.encode_nil, List.cons_append, List.nil_append, readHex4, hexNumber,
    ofNat_toNat_ofNat la, ofNat_toNat_ofNat lb, ofNat_toNat_ofNat lc, ofNat_toNat_ofNat ld, ha, hb,
    hc, hd, Nat.zero_mul, Nat.zero_add]
  rfl

/-- No number is in both halves of the surrogates. -/
theorem isLowSurrogate_of_isHighSurrogate {n : Nat} (h : isHighSurrogate n = true) :
    isLowSurrogate n = false := by
  simp only [isHighSurrogate, isLowSurrogate, Bool.and_eq_true, decide_eq_true_eq,
    Bool.and_eq_false_iff, decide_eq_false_iff_not] at h ⊢
  omega

/-- The letters that stand for a character, with what the reader makes of them. -/
theorem readEscape_short {letter c : Char} (h : shortEscape? letter = some c) (rest : List UInt8) :
    letter.toNat < 0x80 ∧ readEscape (UInt8.ofNat letter.toNat :: rest) = .ok (c, rest) := by
  unfold shortEscape? at h
  split at h <;> cases h <;> exact ⟨by decide, rfl⟩

theorem readEscape_numbered {s : List Char} {n : Nat} (h : Hex4 s n)
    (hhigh : isHighSurrogate n = false) (hlow : isLowSurrogate n = false) (rest : List UInt8) :
    readEscape (0x75 :: (Utf8.encode s ++ rest)) = .ok (Char.ofNat n, rest) := by
  show readNumbered (Utf8.encode s ++ rest) = _
  simp only [readNumbered, readHex4_complete h, hlow, hhigh, Bool.false_eq_true, if_false]

theorem readEscape_pair {s t : List Char} {high low : Nat} (hs : Hex4 s high) (ht : Hex4 t low)
    (hhigh : isHighSurrogate high = true) (hlow : isLowSurrogate low = true) (rest : List UInt8) :
    readEscape (0x75 :: (Utf8.encode s ++ 0x5C :: 0x75 :: (Utf8.encode t ++ rest))) =
      .ok (Char.ofNat (pairValue high low), rest) := by
  show readNumbered (Utf8.encode s ++ _) = _
  simp only [readNumbered, readHex4_complete hs, isLowSurrogate_of_isHighSurrogate hhigh, hhigh,
    Bool.false_eq_true, if_false, if_true, readLowSurrogate, readHex4_complete ht, hlow]

/-! ## Gathering the bytes of a string -/

/-- A byte that stands for itself in a string. -/
def Plain (b : UInt8) : Prop := b ≠ 0x22 ∧ b ≠ 0x5C ∧ ¬ b < 0x20

theorem plain_of_le {b : UInt8} (h : 0x80 ≤ b.toNat) : Plain b := by
  refine ⟨?_, ?_, ?_⟩
  · rintro rfl
    exact absurd h (by decide)
  · rintro rfl
    exact absurd h (by decide)
  · rw [UInt8.lt_iff_toNat_lt]
    exact Nat.not_lt.2 (Nat.le_trans (by decide) h)

/-- All the bytes of a plain character are plain. -/
theorem plain_of_mem_encodeChar {c : Char} (hcontrol : 0x20 ≤ c.toNat) (hquote : c ≠ '"')
    (hbackslash : c ≠ '\\') : ∀ b ∈ Utf8.encodeChar c, Plain b := by
  by_cases hascii : c.toNat < 0x80
  · rw [Utf8.encodeChar_of_lt hascii]
    intro b hb
    rw [List.mem_singleton.1 hb]
    have hne {d : Char} (hd : c ≠ d) (hlt : d.toNat < 0x80) :
        UInt8.ofNat c.toNat ≠ UInt8.ofNat d.toNat := fun heq => hd (by
      rw [← ofNat_toNat_ofNat hascii, heq, ofNat_toNat_ofNat hlt])
    refine ⟨hne hquote (by decide), hne hbackslash (by decide), ?_⟩
    rw [UInt8.lt_iff_toNat_lt, Utf8.toNat_ofNat_of_lt (by omega)]
    exact Nat.not_lt.2 hcontrol
  · exact fun b hb => plain_of_le (Utf8.le_of_mem_encodeChar (Nat.not_lt.1 hascii) b hb)

/-- Plain bytes are taken over. -/
theorem gather_plain {bs : List UInt8} (hbs : ∀ b ∈ bs, Plain b) {fuel : Nat}
    {text more rest : List UInt8} (h : gather fuel text = .ok (more, rest)) :
    gather (fuel + bs.length) (bs ++ text) = .ok (bs ++ more, rest) := by
  induction bs with
  | nil => exact h
  | cons b bs ih =>
    obtain ⟨hquote, hbackslash, hcontrol⟩ := hbs b List.mem_cons_self
    have hbehind := ih fun d hd => hbs d (List.mem_cons_of_mem b hd)
    rw [List.length_cons, ← Nat.add_assoc, List.cons_append]
    simp only [gather, if_neg hquote, if_neg hbackslash, if_neg hcontrol, hbehind,
      List.cons_append]

/-- An escape gives way to its character. -/
theorem gather_escape {fuel : Nat} {c : Char} {text behind more rest : List UInt8}
    (hescape : readEscape text = .ok (c, behind)) (h : gather fuel behind = .ok (more, rest)) :
    gather (fuel + 1) (0x5C :: text) = .ok (Utf8.encodeChar c ++ more, rest) := by
  show (if (0x5C : UInt8) = 0x22 then _ else if (0x5C : UInt8) = 0x5C then _ else _) = _
  rw [if_neg (by decide), if_pos rfl, hescape]
  simp only [h]

/-- With fuel for every byte, the whole text between the marks is gathered. -/
theorem gather_complete {s cs : List Char} (h : StringText s cs) (rest : List UInt8) :
    ∀ fuel, (Utf8.encode s).length < fuel →
      gather fuel (Utf8.encode s ++ 0x22 :: rest) = .ok (Utf8.encode cs, rest) := by
  induction h with
  | nil =>
    intro fuel hfuel
    obtain ⟨fuel, rfl⟩ := Nat.exists_eq_succ_of_ne_zero (Nat.ne_of_gt hfuel)
    rfl
  | @cons s t c cs hc _ ih =>
    intro fuel hfuel
    rw [Utf8.encode_append, List.length_append] at hfuel
    rw [Utf8.encode_append, Utf8.encode_cons, List.append_assoc]
    cases hc with
    | plain hcontrol hquote hbackslash =>
      have hplain := plain_of_mem_encodeChar hcontrol hquote hbackslash
      have hbytes : Utf8.encode [c] = Utf8.encodeChar c := List.append_nil _
      rw [hbytes] at hfuel ⊢
      have hsplit : fuel = fuel - (Utf8.encodeChar c).length + (Utf8.encodeChar c).length := by
        omega
      rw [hsplit]
      exact gather_plain hplain (ih _ (by omega))
    | @short letter _ h =>
      obtain ⟨hlt, hread⟩ := readEscape_short h (Utf8.encode t ++ 0x22 :: rest)
      rw [encode_cons_of_lt (by decide), encode_cons_of_lt hlt] at hfuel ⊢
      simp only [List.length_cons] at hfuel
      obtain ⟨fuel, rfl⟩ : ∃ n, fuel = n + 1 := ⟨fuel - 1, by omega⟩
      exact gather_escape hread (ih fuel (by omega))
    | @numbered s n hs hhigh hlow =>
      have hread := readEscape_numbered hs hhigh hlow (Utf8.encode t ++ 0x22 :: rest)
      rw [encode_cons_of_lt (by decide), encode_cons_of_lt (by decide)] at hfuel ⊢
      simp only [List.length_cons] at hfuel
      obtain ⟨fuel, rfl⟩ : ∃ n, fuel = n + 1 := ⟨fuel - 1, by omega⟩
      exact gather_escape hread (ih fuel (by omega))
    | @pair s' t' high low hs ht hhigh hlow =>
      have hread := readEscape_pair hs ht hhigh hlow (Utf8.encode t ++ 0x22 :: rest)
      have hbytes : Utf8.encode ('\\' :: 'u' :: s' ++ '\\' :: 'u' :: t') =
          0x5C :: 0x75 :: (Utf8.encode s' ++ 0x5C :: 0x75 :: Utf8.encode t') := by
        rw [Utf8.encode_append]
        rfl
      rw [hbytes] at hfuel ⊢
      simp only [List.length_cons, List.length_append] at hfuel
      obtain ⟨fuel, rfl⟩ : ∃ n, fuel = n + 1 := ⟨fuel - 1, by omega⟩
      simp only [List.cons_append, List.append_assoc]
      exact gather_escape hread (ih fuel (by omega))

theorem readString_complete {s cs : List Char} (h : StringText s cs) (rest : List UInt8) :
    readString (Utf8.encode s ++ 0x22 :: rest) = .ok (String.ofList cs, rest) := by
  have hlength : (Utf8.encode s).length < (Utf8.encode s ++ 0x22 :: rest).length := by
    rw [List.length_append, List.length_cons]
    omega
  simp only [readString, gather_complete h rest _ hlength, Utf8.decode_encode]

end CredentialCheck.Json
