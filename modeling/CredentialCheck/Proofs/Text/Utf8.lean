import CredentialCheck.Text.Utf8

/-!
# UTF-8 there and back

What `encode` has written, `decode` reads. The reader meets the first byte of a character between
characters and the others inside one, so each length of a character is one way through its states:
`Pending.start?` on the first byte, and `Pending.next?` on each that follows.
-/

namespace CredentialCheck.Text.Utf8

variable {n : Nat}

/-! ## Bytes -/

theorem toNat_ofNat_of_lt (h : n < 256) : (UInt8.ofNat n).toNat = n := by
  rw [UInt8.toNat_ofNat']
  omega

theorem encode_nil : encode [] = [] := rfl

theorem encode_cons (c : Char) (s : List Char) : encode (c :: s) = encodeChar c ++ encode s := rfl

theorem encode_append (s t : List Char) : encode (s ++ t) = encode s ++ encode t :=
  List.flatMap_append

/-- A character of ASCII is one byte. -/
theorem encodeChar_of_lt {c : Char} (h : c.toNat < 0x80) :
    encodeChar c = [UInt8.ofNat c.toNat] := by
  rw [encodeChar]
  exact if_pos h

/-- The numbers that characters have. -/
theorem toNat_char (c : Char) : c.toNat < 0xD800 ∨ 0xDFFF < c.toNat ∧ c.toNat < 0x110000 := c.valid

/-- Beyond ASCII no byte of a character is one of ASCII. -/
theorem le_of_mem_encodeChar {c : Char} (h : 0x80 ≤ c.toNat) :
    ∀ b ∈ encodeChar c, 0x80 ≤ b.toNat := by
  have hvalid := toNat_char c
  have hle {m : Nat} (hm : 0x80 ≤ m) (hlt : m < 256) : 0x80 ≤ (UInt8.ofNat m).toNat := by
    rwa [toNat_ofNat_of_lt hlt]
  unfold encodeChar
  simp only [if_neg (Nat.not_lt.2 h)]
  split
  · rintro b (_ | ⟨_, _ | ⟨_, ⟨⟩⟩⟩) <;> exact hle (by omega) (by omega)
  split
  · rintro b (_ | ⟨_, _ | ⟨_, _ | ⟨_, ⟨⟩⟩⟩⟩) <;> exact hle (by omega) (by omega)
  · rintro b (_ | ⟨_, _ | ⟨_, _ | ⟨_, _ | ⟨_, ⟨⟩⟩⟩⟩⟩) <;> exact hle (by omega) (by omega)

/-- Only a null character has a zero among its bytes. -/
theorem null_mem_of_zero_mem {s : List Char} (h : 0 ∈ encode s) : '\x00' ∈ s := by
  obtain ⟨c, hc, hmem⟩ := List.mem_flatMap.1 h
  by_cases hascii : c.toNat < 0x80
  · rw [encodeChar_of_lt hascii, List.mem_singleton] at hmem
    have hzero := congrArg UInt8.toNat hmem
    rw [toNat_ofNat_of_lt (by omega)] at hzero
    have heq : c = '\x00' := by
      rw [← Char.ofNat_toNat c, ← hzero]
      rfl
    rwa [heq] at hc
  · exact absurd (le_of_mem_encodeChar (Nat.not_lt.1 hascii) 0 hmem) (by decide)

/-! ## The first byte of a character -/

theorem start?_two (h : 0x80 ≤ n) (h' : n < 0x800) :
    Pending.start? (UInt8.ofNat (0xC0 + n / 0x40)) =
      some ⟨[UInt8.ofNat (0xC0 + n / 0x40)], n / 0x40, 1, 0x80, 0xBF⟩ := by
  simp only [Pending.start?, toNat_ofNat_of_lt (show 0xC0 + n / 0x40 < 256 by omega)]
  rw [if_neg (by omega), if_neg (by omega), if_pos (by omega), Nat.add_sub_cancel_left]

/-- The first of three bytes leaves room for the second, whatever it excludes. -/
theorem start?_three (h : 0x800 ≤ n) (h' : n < 0xD800 ∨ 0xDFFF < n ∧ n < 0x10000) :
    ∃ low high, low ≤ 0x80 + n / 0x40 % 0x40 ∧ 0x80 + n / 0x40 % 0x40 ≤ high ∧
      Pending.start? (UInt8.ofNat (0xE0 + n / 0x1000)) =
        some ⟨[UInt8.ofNat (0xE0 + n / 0x1000)], n / 0x1000, 2, low, high⟩ := by
  simp only [Pending.start?, toNat_ofNat_of_lt (show 0xE0 + n / 0x1000 < 256 by omega)]
  rw [if_neg (by omega), if_neg (by omega), if_neg (by omega)]
  by_cases h0 : n / 0x1000 = 0
  · rw [if_pos (by omega), h0]
    exact ⟨_, _, by omega, by omega, rfl⟩
  · rw [if_neg (by omega)]
    by_cases hd : n / 0x1000 = 0xD
    · rw [if_pos (by omega), hd]
      exact ⟨_, _, by omega, by omega, rfl⟩
    · rw [if_neg (by omega), if_pos (by omega), Nat.add_sub_cancel_left]
      exact ⟨_, _, by omega, by omega, rfl⟩

/-- So does the first of four. -/
theorem start?_four (h : 0x10000 ≤ n) (h' : n < 0x110000) :
    ∃ low high, low ≤ 0x80 + n / 0x1000 % 0x40 ∧ 0x80 + n / 0x1000 % 0x40 ≤ high ∧
      Pending.start? (UInt8.ofNat (0xF0 + n / 0x40000)) =
        some ⟨[UInt8.ofNat (0xF0 + n / 0x40000)], n / 0x40000, 3, low, high⟩ := by
  simp only [Pending.start?, toNat_ofNat_of_lt (show 0xF0 + n / 0x40000 < 256 by omega)]
  rw [if_neg (by omega), if_neg (by omega), if_neg (by omega), if_neg (by omega), if_neg (by omega),
    if_neg (by omega)]
  by_cases h0 : n / 0x40000 = 0
  · rw [if_pos (by omega), h0]
    exact ⟨_, _, by omega, by omega, rfl⟩
  · rw [if_neg (by omega)]
    by_cases h4 : n / 0x40000 = 4
    · rw [if_neg (by omega), if_pos (by omega), h4]
      exact ⟨_, _, by omega, by omega, rfl⟩
    · rw [if_pos (by omega), Nat.add_sub_cancel_left]
      exact ⟨_, _, by omega, by omega, rfl⟩

/-! ## Bytes taken up by the reader -/

/-- A first byte that does not make a whole character. -/
theorem decodeFrom_start {b : UInt8} {p : Pending} (offset : Nat) (bs : List UInt8)
    (h : Pending.start? b = some p) (howed : p.owed ≠ 0) :
    decodeFrom offset none (b :: bs) = decodeFrom offset (some p) bs := by
  simp only [decodeFrom, h, if_neg howed]

/-- A byte that may follow, behind which more are to come. -/
theorem decodeFrom_next {p : Pending} (offset : Nat) (bs : List UInt8) (hlow : p.low ≤ 0x80 + n)
    (hhigh : 0x80 + n ≤ p.high) (h : n < 0x40) (howed : p.owed - 1 ≠ 0) :
    decodeFrom offset (some p) (UInt8.ofNat (0x80 + n) :: bs) =
      decodeFrom offset (some ⟨p.bytes ++ [UInt8.ofNat (0x80 + n)], p.value * 0x40 + n, p.owed - 1,
        0x80, 0xBF⟩) bs := by
  simp only [decodeFrom, Pending.next?, toNat_ofNat_of_lt (show 0x80 + n < 256 by omega)]
  rw [if_pos ⟨hlow, hhigh⟩, Nat.add_sub_cancel_left]
  simp only [if_neg howed]

/-- The last byte of a character. -/
theorem decodeFrom_last {p : Pending} (offset : Nat) (bs : List UInt8) (hlow : p.low ≤ 0x80 + n)
    (hhigh : 0x80 + n ≤ p.high) (h : n < 0x40) (howed : p.owed - 1 = 0) :
    decodeFrom offset (some p) (UInt8.ofNat (0x80 + n) :: bs) =
      (decodeFrom (offset + (p.bytes.length + 1)) none bs).map
        (Char.ofNat (p.value * 0x40 + n) :: ·) := by
  simp only [decodeFrom, Pending.next?, toNat_ofNat_of_lt (show 0x80 + n < 256 by omega)]
  rw [if_pos ⟨hlow, hhigh⟩, Nat.add_sub_cancel_left]
  simp only [if_pos howed, List.length_append, List.length_singleton]

/-! ## Reading back -/

/-- The reader takes up the bytes of one character. -/
theorem decodeFrom_encodeChar (offset : Nat) (c : Char) (bs : List UInt8) :
    decodeFrom offset none (encodeChar c ++ bs) =
      (decodeFrom (offset + (encodeChar c).length) none bs).map (c :: ·) := by
  have hc : Char.ofNat c.toNat = c := Char.ofNat_toNat c
  have hvalid := toNat_char c
  rw [encodeChar]
  generalize c.toNat = n at hc hvalid
  -- one way through the reader's states for each length
  split
  · next h =>
    have hstart : Pending.start? (UInt8.ofNat n) = some ⟨[UInt8.ofNat n], n, 0, 0x80, 0xBF⟩ := by
      simp only [Pending.start?, toNat_ofNat_of_lt (show n < 256 by omega)]
      rw [if_pos h]
    simp only [List.cons_append, List.nil_append, decodeFrom, hstart, if_pos, hc,
      List.length_singleton]
  split
  · next h1 h2 =>
    have hvalue : n / 0x40 * 0x40 + n % 0x40 = n := by omega
    simp only [List.cons_append, List.nil_append]
    rw [decodeFrom_start _ _ (start?_two (by omega) h2) (by simp),
      decodeFrom_last _ _ (Nat.le_add_right _ _) (by simp only; omega) (Nat.mod_lt n (by omega))
        rfl, hvalue, hc]
    rfl
  split
  · next h1 h2 h3 =>
    obtain ⟨low, high, hlow, hhigh, hstart⟩ := start?_three (n := n) (by omega) (by omega)
    have hvalue : (n / 0x1000 * 0x40 + n / 0x40 % 0x40) * 0x40 + n % 0x40 = n := by omega
    simp only [List.cons_append, List.nil_append]
    rw [decodeFrom_start _ _ hstart (by simp),
      decodeFrom_next _ _ hlow hhigh (Nat.mod_lt _ (by omega)) (by simp),
      decodeFrom_last _ _ (Nat.le_add_right _ _) (by simp only; omega) (Nat.mod_lt n (by omega))
        rfl, hvalue, hc]
    rfl
  · next h1 h2 h3 =>
    obtain ⟨low, high, hlow, hhigh, hstart⟩ := start?_four (n := n) (by omega) (by omega)
    have hvalue : ((n / 0x40000 * 0x40 + n / 0x1000 % 0x40) * 0x40 + n / 0x40 % 0x40) * 0x40 +
        n % 0x40 = n := by omega
    simp only [List.cons_append, List.nil_append]
    rw [decodeFrom_start _ _ hstart (by simp),
      decodeFrom_next _ _ hlow hhigh (Nat.mod_lt _ (by omega)) (by simp),
      decodeFrom_next _ _ (Nat.le_add_right _ _) (by simp only; omega) (Nat.mod_lt _ (by omega))
        (by simp),
      decodeFrom_last _ _ (Nat.le_add_right _ _) (by simp only; omega) (Nat.mod_lt n (by omega))
        rfl, hvalue, hc]
    rfl

theorem decodeFrom_encode (offset : Nat) (s : List Char) :
    decodeFrom offset none (encode s) = .ok s := by
  induction s generalizing offset with
  | nil => rfl
  | cons c s ih =>
    rw [encode_cons, decodeFrom_encodeChar, ih]
    rfl

/-- **What was written in UTF-8 is read back.** -/
@[simp] theorem decode_encode (s : List Char) : decode (encode s) = .ok s := decodeFrom_encode 0 s

@[simp] theorem decode?_encode (s : List Char) : decode? (encode s) = some s := by
  rw [decode?, decode_encode]
  rfl

end CredentialCheck.Text.Utf8
