import CredentialCheck.Proofs.Json.Grammar
import CredentialCheck.Proofs.Text.Utf8

/-!
# Reading white space and numbers

What the grammar derives, the reader accepts, with the value that the text spells. The reader works
on bytes, so each text stands in UTF-8 in front of some `rest`. A number ends where no byte can
prolong it (`Ends`), so the rest has to see to that.

* `skipBlank_append` and `readNumber_complete` are the main statements.
-/

namespace CredentialCheck.Json

open Text Grammar

/-! ## Bytes of ASCII -/

/-- A character of ASCII in front of a text is a byte in front of its bytes. -/
theorem encode_cons_of_lt {c : Char} (h : c.toNat < 0x80) (s : List Char) :
    Utf8.encode (c :: s) = UInt8.ofNat c.toNat :: Utf8.encode s := by
  rw [Utf8.encode_cons, Utf8.encodeChar_of_lt h, List.singleton_append]

theorem isDigit_char {c : Char} (h : c.isDigit = true) : 0x30 ≤ c.toNat ∧ c.toNat ≤ 0x39 := by
  simp only [Char.isDigit, Bool.and_eq_true, decide_eq_true_eq] at h
  exact ⟨UInt32.le_iff_toNat_le.1 h.1, UInt32.le_iff_toNat_le.1 h.2⟩

/-- The byte of a digit is a digit. -/
theorem isDigit_ofNat {c : Char} (h : c.isDigit = true) : isDigit (UInt8.ofNat c.toNat) = true := by
  obtain ⟨hlow, hhigh⟩ := isDigit_char h
  simp only [isDigit, Bool.and_eq_true, decide_eq_true_eq, UInt8.le_iff_toNat_le,
    Utf8.toNat_ofNat_of_lt (show c.toNat < 256 by omega)]
  exact ⟨hlow, hhigh⟩

theorem encode_cons_of_isDigit {c : Char} (h : c.isDigit = true) (s : List Char) :
    Utf8.encode (c :: s) = UInt8.ofNat c.toNat :: Utf8.encode s :=
  encode_cons_of_lt (by have := isDigit_char h; omega) s

theorem all_isDigit_encode {s : List Char} (h : ∀ c ∈ s, c.isDigit = true) :
    ∀ b ∈ Utf8.encode s, isDigit b = true := by
  induction s with
  | nil => intro b hb; cases hb
  | cons c s ih =>
    rw [encode_cons_of_isDigit (h c List.mem_cons_self)]
    intro b hb
    rcases List.mem_cons.1 hb with rfl | hb
    · exact isDigit_ofNat (h c List.mem_cons_self)
    · exact ih (fun d hd => h d (List.mem_cons_of_mem c hd)) b hb

/-- Digits are as many bytes as characters. -/
theorem length_encode_of_isDigit {s : List Char} (h : ∀ c ∈ s, c.isDigit = true) :
    (Utf8.encode s).length = s.length := by
  induction s with
  | nil => rfl
  | cons c s ih =>
    rw [encode_cons_of_isDigit (h c List.mem_cons_self), List.length_cons, List.length_cons,
      ih fun d hd => h d (List.mem_cons_of_mem c hd)]

/-! ## White space -/

theorem isBlank_of_mem {c : Char} (h : c ∈ [' ', '\t', '\n', '\r']) :
    c.toNat < 0x80 ∧ isBlank (UInt8.ofNat c.toNat) = true := by
  simp only [List.mem_cons, List.not_mem_nil, or_false] at h
  rcases h with rfl | rfl | rfl | rfl <;> decide

/-- White space is passed over. -/
theorem skipBlank_append {a : List Char} (ha : Blank a) (bs : List UInt8) :
    skipBlank (Utf8.encode a ++ bs) = skipBlank bs := by
  induction a with
  | nil => rfl
  | cons c a ih =>
    obtain ⟨hlt, hblank⟩ := isBlank_of_mem (ha c List.mem_cons_self)
    rw [encode_cons_of_lt hlt, List.cons_append, skipBlank, List.dropWhile_cons_of_pos hblank]
    exact ih fun d hd => ha d (List.mem_cons_of_mem c hd)

theorem skipBlank_cons {b : UInt8} (h : isBlank b = false) (bs : List UInt8) :
    skipBlank (b :: bs) = b :: bs :=
  List.dropWhile_cons_of_neg (by simp [h])

theorem length_skipBlank_le (bs : List UInt8) : (skipBlank bs).length ≤ bs.length :=
  (List.dropWhile_suffix _).length_le

/-! ## Digits -/

/-- What no digit can stand in front of. -/
def NoDigit (bs : List UInt8) : Prop := ∀ b ∈ bs.head?, isDigit b = false

theorem takeWhile_digits {ds rest : List UInt8} (hds : ∀ b ∈ ds, isDigit b = true)
    (hrest : NoDigit rest) :
    (ds ++ rest).takeWhile isDigit = ds ∧ (ds ++ rest).dropWhile isDigit = rest := by
  rw [List.takeWhile_append_of_pos hds, List.dropWhile_append_of_pos hds]
  cases rest with
  | nil => simp
  | cons b bs =>
    have hb : ¬ isDigit b = true := by simp [hrest b rfl]
    rw [List.takeWhile_cons_of_neg hb, List.dropWhile_cons_of_neg hb, List.append_nil]
    exact ⟨rfl, rfl⟩

/-- The number of digits as bytes is that of the digits as characters. -/
theorem digitsFrom_encode {s : List Char} (h : ∀ c ∈ s, c.isDigit = true) (n : Nat) :
    digitsFrom n (Utf8.encode s) = s.foldl (fun n c => n * 10 + (c.toNat - 0x30)) n := by
  induction s generalizing n with
  | nil => rfl
  | cons c s ih =>
    have hc := h c List.mem_cons_self
    have hlt : c.toNat < 256 := by have := isDigit_char hc; omega
    rw [encode_cons_of_isDigit hc, digitsFrom, List.foldl_cons, List.foldl_cons,
      Utf8.toNat_ofNat_of_lt hlt]
    exact ih (fun d hd => h d (List.mem_cons_of_mem c hd)) _

theorem digitsFrom_zero_encode {s : List Char} (h : ∀ c ∈ s, c.isDigit = true) :
    digitsFrom 0 (Utf8.encode s) = numberOfDigits s := digitsFrom_encode h 0

theorem readDigits_complete {s : List Char} (h : Digits s) {rest : List UInt8}
    (hrest : NoDigit rest) : readDigits (Utf8.encode s ++ rest) = .ok (Utf8.encode s, rest) := by
  obtain ⟨hne, hall⟩ := h
  cases s with
  | nil => exact absurd rfl hne
  | cons c s =>
    have hc := hall c List.mem_cons_self
    obtain ⟨htake, hdrop⟩ := takeWhile_digits
      (all_isDigit_encode fun d hd => hall d (List.mem_cons_of_mem c hd)) hrest
    rw [encode_cons_of_isDigit hc, List.cons_append, readDigits, if_pos (isDigit_ofNat hc), htake,
      hdrop]

/-! ## Numbers -/

/-- What cannot prolong a number. -/
def Ends (bs : List UInt8) : Prop :=
  ∀ b ∈ bs.head?, isDigit b = false ∧ b ≠ 0x2E ∧ b ≠ 0x65 ∧ b ≠ 0x45

theorem Ends.noDigit {bs : List UInt8} (h : Ends bs) : NoDigit bs := fun b hb => (h b hb).1

/-- The rest behind a number does not prolong its exponent. -/
theorem noDigit_exponent {x : List Char} {exponent : Option Int} {rest : List UInt8}
    (hx : Exponent x exponent) (hrest : Ends rest) : NoDigit (Utf8.encode x ++ rest) := by
  cases hx with
  | absent => exact hrest.noDigit
  | plain hmark _ | plus hmark _ | minus hmark _ =>
    intro b hb
    simp only [List.mem_cons, List.not_mem_nil, or_false] at hmark
    rcases hmark with rfl | rfl <;> cases hb <;> rfl

/-- Neither does it prolong the digits in front of the point. -/
theorem noDigit_fraction {f x : List Char} {places : Option (List Char)} {exponent : Option Int}
    {rest : List UInt8} (hf : Fraction f places) (hx : Exponent x exponent) (hrest : Ends rest) :
    NoDigit (Utf8.encode f ++ (Utf8.encode x ++ rest)) := by
  cases hf with
  | absent =>
    show NoDigit (Utf8.encode x ++ rest)
    exact noDigit_exponent hx hrest
  | present _ =>
    intro b hb
    cases hb
    rfl

theorem readWhole_complete {w : List Char} (h : Whole w) {maxDigits : Nat}
    (hlength : w.length ≤ maxDigits) {rest : List UInt8} (hrest : NoDigit rest) :
    readWhole maxDigits (Utf8.encode w ++ rest) = .ok (Utf8.encode w, rest) := by
  obtain ⟨⟨hne, hall⟩, hzero⟩ := h
  cases w with
  | nil => exact absurd rfl hne
  | cons c w =>
    have hc := hall c List.mem_cons_self
    by_cases h0 : c = '0'
    · subst h0
      cases hzero rfl
      cases rest with
      | nil => rfl
      | cons b bs =>
        have hb : isDigit b = false := hrest b rfl
        show (if isDigit b then _ else _) = _
        rw [if_neg (by simp [hb])]
        rfl
    · have hbyte : UInt8.ofNat c.toNat ≠ 0x30 := fun heq => h0 (by
        have hn := congrArg UInt8.toNat heq
        rw [Utf8.toNat_ofNat_of_lt (by have := isDigit_char hc; omega)] at hn
        rw [← Char.ofNat_toNat c, hn]
        rfl)
      have hrestDigits : ∀ d ∈ w, d.isDigit = true := fun d hd => hall d (List.mem_cons_of_mem c hd)
      obtain ⟨htake, hdrop⟩ := takeWhile_digits (all_isDigit_encode hrestDigits) hrest
      rw [encode_cons_of_isDigit hc, List.cons_append]
      simp only [readWhole, if_neg hbyte, if_pos (isDigit_ofNat hc), htake, hdrop]
      rw [if_neg]
      simp only [List.length_cons, length_encode_of_isDigit hrestDigits] at hlength ⊢
      omega

theorem readFraction_complete {f : List Char} {places : Option (List Char)} (h : Fraction f places)
    {rest : List UInt8} (hrest : NoDigit rest) (hpoint : ∀ b ∈ rest.head?, b ≠ 0x2E) :
    readFraction (Utf8.encode f ++ rest) = .ok (places.map Utf8.encode, rest) := by
  cases h with
  | absent =>
    show readFraction rest = .ok (none, rest)
    unfold readFraction
    split
    · exact absurd rfl (hpoint _ rfl)
    · rfl
  | present h =>
    rw [encode_cons_of_lt (by decide), List.cons_append]
    show (readDigits _).map _ = _
    rw [readDigits_complete h hrest]
    rfl

/-- The mark of an exponent is one byte. -/
theorem encode_mark {mark : Char} (hm : mark ∈ ['e', 'E']) (s : List Char) :
    ∃ b, (b = 0x65 ∨ b = 0x45) ∧ Utf8.encode (mark :: s) = b :: Utf8.encode s := by
  simp only [List.mem_cons, List.not_mem_nil, or_false] at hm
  rcases hm with rfl | rfl
  · exact ⟨0x65, .inl rfl, rfl⟩
  · exact ⟨0x45, .inr rfl, rfl⟩

/-- Digits begin with a digit. -/
theorem Grammar.Digits.encode_eq {s : List Char} (h : Digits s) :
    ∃ b bs, isDigit b = true ∧ Utf8.encode s = b :: bs := by
  obtain ⟨hne, hall⟩ := h
  cases s with
  | nil => exact absurd rfl hne
  | cons c s =>
    have hc := hall c List.mem_cons_self
    exact ⟨_, _, isDigit_ofNat hc, encode_cons_of_isDigit hc s⟩

/-- An exponent without a sign. -/
theorem readExponent_of_isDigit {mark b : UInt8} (hmark : mark = 0x65 ∨ mark = 0x45)
    (hb : isDigit b = true) (bs : List UInt8) :
    readExponent (mark :: b :: bs) =
      (readDigits (b :: bs)).map fun (digits, bs) => (some (digitsFrom 0 digits), bs) := by
  have hminus : b ≠ 0x2D := by rintro rfl; cases hb
  have hplus : b ≠ 0x2B := by rintro rfl; cases hb
  simp only [readExponent, if_pos hmark]
  split
  · next heq => exact absurd (List.cons.inj heq).1 hminus
  · next heq => exact absurd (List.cons.inj heq).1 hplus
  · rfl

theorem readExponent_complete {x : List Char} {exponent : Option Int} (h : Exponent x exponent)
    {rest : List UInt8} (hrest : Ends rest) :
    readExponent (Utf8.encode x ++ rest) = .ok (exponent, rest) := by
  cases h with
  | absent =>
    show readExponent rest = .ok (none, rest)
    cases rest with
    | nil => rfl
    | cons b bs =>
      obtain ⟨-, -, he, hE⟩ := hrest b rfl
      simp only [readExponent]
      rw [if_neg (by simp [he, hE])]
  | @plain mark s hm h =>
    obtain ⟨m, hmark, hbytes⟩ := encode_mark hm s
    obtain ⟨b, bs, hb, heq⟩ := h.encode_eq
    have hread := readDigits_complete h hrest.noDigit
    rw [hbytes, List.cons_append, ← digitsFrom_zero_encode h.2]
    rw [heq, List.cons_append] at hread ⊢
    rw [readExponent_of_isDigit hmark hb, hread]
    rfl
  | @plus mark s hm h =>
    obtain ⟨m, hmark, hbytes⟩ := encode_mark hm ('+' :: s)
    rw [hbytes, encode_cons_of_lt (by decide), ← digitsFrom_zero_encode h.2]
    show (if m = 0x65 ∨ m = 0x45 then
      (readDigits (Utf8.encode s ++ rest)).map _ else _) = _
    rw [if_pos hmark, readDigits_complete h hrest.noDigit]
    rfl
  | @minus mark s hm h =>
    obtain ⟨m, hmark, hbytes⟩ := encode_mark hm ('-' :: s)
    rw [hbytes, encode_cons_of_lt (by decide), ← digitsFrom_zero_encode h.2]
    show (if m = 0x65 ∨ m = 0x45 then
      (readDigits (Utf8.encode s ++ rest)).map _ else _) = _
    rw [if_pos hmark, readDigits_complete h hrest.noDigit]
    rfl

/-- The digits around the point, read on one from the other. -/
theorem digitsFrom_numberOfDigits (s : List Char) {t : List Char}
    (ht : ∀ c ∈ t, c.isDigit = true) :
    digitsFrom (numberOfDigits s) (Utf8.encode t) = numberOfDigits (s ++ t) := by
  rw [digitsFrom_encode ht]
  exact List.foldl_append.symm

theorem Grammar.Fraction.isDigit {f : List Char} {places : Option (List Char)}
    (h : Fraction f places) : ∀ c ∈ places.getD [], c.isDigit = true := by
  cases h with
  | absent => intro c hc; cases hc
  | present h => exact h.2

theorem readMagnitude_complete {w f x : List Char} {places : Option (List Char)}
    {exponent : Option Int} (hw : Whole w) {maxDigits : Nat} (hlength : w.length ≤ maxDigits)
    (hf : Fraction f places) (hx : Exponent x exponent) {rest : List UInt8} (hrest : Ends rest)
    (negative : Bool) :
    readMagnitude maxDigits negative (Utf8.encode (w ++ f ++ x) ++ rest) =
      .ok (numberOfParts negative w places exponent, rest) := by
  have hwhole := readWhole_complete hw hlength (noDigit_fraction hf hx hrest)
  have hpoint : ∀ b ∈ (Utf8.encode x ++ rest).head?, b ≠ 0x2E := by
    cases hx with
    | absent => exact fun b hb => (hrest b hb).2.1
    | plain hm _ | plus hm _ | minus hm _ =>
      simp only [List.mem_cons, List.not_mem_nil, or_false] at hm
      rcases hm with rfl | rfl <;> rintro b ⟨⟩ <;> decide
  have hfraction := readFraction_complete hf (noDigit_exponent hx hrest) hpoint
  have hplaces : (places.map Utf8.encode).getD [] = Utf8.encode (places.getD []) := by
    cases places <;> rfl
  rw [Utf8.encode_append, Utf8.encode_append, List.append_assoc, List.append_assoc]
  simp only [readMagnitude, hwhole, hfraction, readExponent_complete hx hrest, numberOfParts,
    Option.isNone_map, hplaces, length_encode_of_isDigit hf.isDigit,
    digitsFrom_zero_encode hw.1.2, digitsFrom_numberOfDigits w hf.isDigit]
  split <;> rfl

theorem readNumber_complete {maxDigits : Nat} {s : List Char} {v : Value}
    (h : NumberText maxDigits s v) {rest : List UInt8} (hrest : Ends rest) :
    readNumber maxDigits (Utf8.encode s ++ rest) = .ok (v, rest) := by
  cases h with
  | @unsigned w f x places exponent hw hlength hf hx =>
    have hread := readMagnitude_complete hw hlength hf hx hrest false
    obtain ⟨b, bs, hb, heq⟩ := hw.1.encode_eq
    rw [← hread, Utf8.encode_append, Utf8.encode_append, heq]
    have hminus : b ≠ 0x2D := by rintro rfl; cases hb
    simp only [List.cons_append]
    unfold readNumber
    split
    · next h => exact absurd (List.cons.inj h).1 hminus
    · next h => exact absurd (List.cons.inj h).1 hminus
    · rfl
  | @signed w f x places exponent hw hlength hf hx =>
    have hread := readMagnitude_complete hw hlength hf hx hrest true
    obtain ⟨b, bs, hb, heq⟩ := hw.1.encode_eq
    have hword : b ≠ 0x49 := by rintro rfl; cases hb
    rw [← hread, encode_cons_of_lt (by decide), Utf8.encode_append, Utf8.encode_append, heq]
    simp only [List.cons_append]
    unfold readNumber
    split
    · next h => exact absurd (List.cons.inj (List.cons.inj h).2).1 hword
    · next h => rw [(List.cons.inj h).2]
    · next h => exact absurd rfl (h _)

end CredentialCheck.Json
