import CredentialCheck.Proofs.Json.SoundScalars
import CredentialCheck.Proofs.Json.Strings

/-!
# What is read as a string

A string that is read is the text between two quotation marks as the grammar has it. The reader
gathers bytes and decodes them only at the end, so the characters are found from behind: the
induction is on the text that came out. Its first character was either an escape, or was gathered
byte by byte; in the second case no escape can have come between its bytes, since no character
begins with a continuation byte.

* `gather_cases` is one step of gathering.
* `readString_sound` is the main statement.
-/

namespace CredentialCheck.Json

open Text Grammar

variable {bs rest : List UInt8}

/-! ## Escapes -/

theorem toNat_lt_of_hexValue?_byte {b : UInt8} {n : Nat}
    (h : hexValue? (Char.ofNat b.toNat) = some n) : b.toNat < 0x80 := by
  have hb := b.toNat_lt
  have hchar := toNat_lt_of_hexValue? h
  rwa [Utf8.toNat_ofNat_of_valid (.inl (by omega))] at hchar

/-- One digit of a number in hexadecimal. -/
theorem hexNumber_cons {behind n m : Nat} {b : UInt8}
    (h : hexNumber behind n (b :: bs) = .ok m) :
    ∃ d, hexValue? (Char.ofNat b.toNat) = some d ∧ hexNumber behind (n * 16 + d) bs = .ok m := by
  rw [hexNumber] at h
  split at h
  · next d hd => exact ⟨d, hd, h⟩
  · cases h

theorem readHex4_sound {n : Nat} (h : readHex4 bs = .ok (n, rest)) :
    ∃ s, Hex4 s n ∧ bs = Utf8.encode s ++ rest := by
  unfold readHex4 at h
  split at h
  · next a b c d bs =>
    obtain ⟨n', hread, heq⟩ := exists_of_map_eq_ok h
    cases heq
    obtain ⟨i, ha, hread⟩ := hexNumber_cons hread
    obtain ⟨j, hb, hread⟩ := hexNumber_cons hread
    obtain ⟨k, hc, hread⟩ := hexNumber_cons hread
    obtain ⟨l, hd, hread⟩ := hexNumber_cons hread
    have hn : ((i * 16 + j) * 16 + k) * 16 + l = n := by
      simpa only [Nat.zero_mul, Nat.zero_add, hexNumber, Except.ok.injEq] using hread
    subst hn
    refine ⟨_, .mk ha hb hc hd, ?_⟩
    rw [encode_ofNat_cons (toNat_lt_of_hexValue?_byte ha),
      encode_ofNat_cons (toNat_lt_of_hexValue?_byte hb),
      encode_ofNat_cons (toNat_lt_of_hexValue?_byte hc),
      encode_ofNat_cons (toNat_lt_of_hexValue?_byte hd)]
    rfl
  · cases h

theorem readLowSurrogate_sound {high : Nat} {c : Char}
    (h : readLowSurrogate high bs = .ok (c, rest)) :
    ∃ t low, Hex4 t low ∧ isLowSurrogate low = true ∧ c = Char.ofNat (pairValue high low) ∧
      bs = 0x5C :: 0x75 :: (Utf8.encode t ++ rest) := by
  unfold readLowSurrogate at h
  split at h
  · split at h
    · cases h
    next low bs hread =>
    split at h
    · next hlow =>
      obtain ⟨rfl, rfl⟩ := Prod.mk.inj (Except.ok.inj h)
      obtain ⟨t, ht, rfl⟩ := readHex4_sound hread
      exact ⟨t, low, ht, hlow, rfl, rfl⟩
    · cases h
  all_goals cases h

/-- A numbered escape, from behind the letter. -/
theorem readNumbered_sound {c : Char} (h : readNumbered bs = .ok (c, rest)) :
    ∃ s, CharText ('\\' :: 'u' :: s) c ∧ bs = Utf8.encode s ++ rest := by
  unfold readNumbered at h
  split at h
  · cases h
  next n bs' hread =>
  obtain ⟨s, hs, rfl⟩ := readHex4_sound hread
  split at h
  · cases h
  next hlow =>
  split at h
  · next hhigh =>
    obtain ⟨t, low, ht, hlow', hc, hbytes⟩ := readLowSurrogate_sound h
    have hpair := CharText.pair hs ht hhigh hlow'
    rw [← hc, List.cons_append, List.cons_append] at hpair
    refine ⟨_, hpair, ?_⟩
    rw [hbytes, Utf8.encode_append, List.append_assoc]
    rfl
  · next hhigh =>
    obtain ⟨rfl, rfl⟩ := Prod.mk.inj (Except.ok.inj h)
    exact ⟨s, .numbered hs (Bool.eq_false_iff.2 hhigh) (Bool.eq_false_iff.2 hlow), rfl⟩

/-- An escape, from behind the backslash. -/
theorem readEscape_sound {c : Char} (h : readEscape bs = .ok (c, rest)) :
    ∃ s, CharText ('\\' :: s) c ∧ bs = Utf8.encode s ++ rest := by
  unfold readEscape at h
  split at h
  · cases h
  · obtain ⟨s, hs, rfl⟩ := readNumbered_sound h
    exact ⟨'u' :: s, hs, rfl⟩
  · split at h
    · cases h
      exact ⟨['"'], .short rfl, rfl⟩
    · cases h
      exact ⟨['\\'], .short rfl, rfl⟩
    · cases h
      exact ⟨['/'], .short rfl, rfl⟩
    · cases h
      exact ⟨['b'], .short rfl, rfl⟩
    · cases h
      exact ⟨['f'], .short rfl, rfl⟩
    · cases h
      exact ⟨['n'], .short rfl, rfl⟩
    · cases h
      exact ⟨['r'], .short rfl, rfl⟩
    · cases h
      exact ⟨['t'], .short rfl, rfl⟩
    · cases h

/-! ## Gathering the bytes of a string -/

/-- What gathering comes to: the end of the string, an escape, or a byte that stands for itself. -/
inductive Gathers (bs rest : List UInt8) : List UInt8 → Prop
  | mark (h : bs = 0x22 :: rest) : Gathers bs rest []
  | escape {fuel : Nat} {c : Char} {text behind more : List UInt8} (h : bs = 0x5C :: text)
    (hescape : readEscape text = .ok (c, behind)) (hmore : gather fuel behind = .ok (more, rest)) :
    Gathers bs rest (Utf8.encodeChar c ++ more)
  | plain {fuel : Nat} {b : UInt8} {text more : List UInt8} (h : bs = b :: text) (hb : Plain b)
    (hmore : gather fuel text = .ok (more, rest)) : Gathers bs rest (b :: more)

theorem gather_cases {fuel : Nat} {gathered : List UInt8}
    (h : gather fuel bs = .ok (gathered, rest)) : Gathers bs rest gathered := by
  unfold gather at h
  split at h
  · cases h
  · cases h
  split at h
  · next hb =>
    cases h
    exact .mark (by rw [hb])
  next hquote =>
  split at h
  · next hb =>
    split at h
    · cases h
    next c behind hescape =>
    split at h
    · cases h
    next more rest' hmore =>
    cases h
    exact .escape (by rw [hb]) hescape hmore
  next hbackslash =>
  split at h
  · cases h
  next hcontrol =>
  split at h
  · cases h
  next more rest' hmore =>
  cases h
  exact .plain rfl ⟨hquote, hbackslash, hcontrol⟩ hmore

/-- Continuation bytes come from bytes that stand for themselves. -/
theorem gather_continuation {tail more : List UInt8}
    (htail : ∀ b ∈ tail, 0x80 ≤ b.toNat ∧ b.toNat < 0xC0) {fuel : Nat}
    (h : gather fuel bs = .ok (tail ++ more, rest)) :
    ∃ fuel' text, bs = tail ++ text ∧ gather fuel' text = .ok (more, rest) := by
  induction tail generalizing bs fuel with
  | nil => exact ⟨fuel, bs, rfl, h⟩
  | cons b tail ih =>
    have hb := htail b List.mem_cons_self
    generalize hgathered : b :: tail ++ more = gathered at h
    cases gather_cases h with
    | mark _ => cases hgathered
    | @escape _ c _ _ _ _ _ _ =>
      obtain ⟨first, others, hfirst, hrange, -⟩ := Utf8.head_encodeChar c
      rw [hfirst] at hgathered
      have heq : b = first := (List.cons.inj hgathered).1
      rw [← heq] at hrange
      omega
    | plain hbs _ hmore =>
      obtain ⟨rfl, rfl⟩ := List.cons.inj hgathered
      obtain ⟨fuel', text, rfl, hread⟩ := ih (fun d hd => htail d (List.mem_cons_of_mem b hd)) hmore
      exact ⟨fuel', text, hbs, hread⟩

/-- The first byte of a plain character is a plain byte. -/
theorem charText_of_plain {c : Char} {b : UInt8} {tail : List UInt8}
    (h : Utf8.encodeChar c = b :: tail) (hb : Plain b) : CharText [c] c := by
  obtain ⟨hquote, hbackslash, hcontrol⟩ := hb
  refine .plain ?_ ?_ ?_
  · refine Nat.le_of_not_lt fun hlt => hcontrol ?_
    rw [Utf8.encodeChar_of_lt (by omega)] at h
    cases h
    rwa [UInt8.lt_iff_toNat_lt, Utf8.toNat_ofNat_of_lt (by omega)]
  · rintro rfl
    cases h
    exact hquote rfl
  · rintro rfl
    cases h
    exact hbackslash rfl

/-- What has been gathered, if it is a text in UTF-8, was spelled between the marks. -/
theorem gather_sound {cs : List Char} {fuel offset : Nat} {gathered : List UInt8}
    (h : gather fuel bs = .ok (gathered, rest))
    (hdecode : Utf8.decodeFrom offset none gathered = .ok cs) :
    ∃ s, StringText s cs ∧ bs = Utf8.encode s ++ 0x22 :: rest := by
  induction cs generalizing bs fuel offset gathered with
  | nil =>
    cases gather_cases h with
    | mark hbs => exact ⟨[], .nil, hbs⟩
    | @escape _ c _ _ _ _ _ _ =>
      rw [Utf8.decodeFrom_encodeChar] at hdecode
      obtain ⟨more, -, heq⟩ := exists_of_map_eq_ok hdecode
      cases heq
    | plain _ _ _ =>
      obtain ⟨c, tail, o, more, -, heq, -⟩ := Utf8.exists_encodeChar_of_decodeFrom hdecode
      cases heq
  | cons c cs ih =>
    cases gather_cases h with
    | mark _ => cases hdecode
    | escape hbs hescape hmore =>
      rw [Utf8.decodeFrom_encodeChar] at hdecode
      obtain ⟨more, hdecode, heq⟩ := exists_of_map_eq_ok hdecode
      cases heq
      obtain ⟨s, hs, rfl⟩ := readEscape_sound hescape
      obtain ⟨t, ht, rfl⟩ := ih hmore hdecode
      refine ⟨_, .cons hs ht, ?_⟩
      rw [hbs, Utf8.encode_append, encode_cons_of_lt (by decide), List.append_assoc]
      rfl
    | @plain _ b text more hbs hb hmore =>
      obtain ⟨c', tail, o, cs', hbytes, heq, hbehind⟩ :=
        Utf8.exists_encodeChar_of_decodeFrom hdecode
      cases heq
      obtain ⟨first, others, hfirst, -, hcontinues⟩ := Utf8.head_encodeChar c
      rw [hfirst] at hbytes
      obtain ⟨rfl, rfl⟩ := List.cons.inj hbytes
      obtain ⟨fuel', text', rfl, hread⟩ := gather_continuation hcontinues hmore
      obtain ⟨t, ht, rfl⟩ := ih hread hbehind
      refine ⟨_, .cons (charText_of_plain hfirst hb) ht, ?_⟩
      rw [hbs, Utf8.encode_append, Utf8.encode_cons, hfirst]
      simp [Utf8.encode_nil]

theorem readString_sound {str : String} (h : readString bs = .ok (str, rest)) :
    ∃ s cs, StringText s cs ∧ str = String.ofList cs ∧ bs = Utf8.encode s ++ 0x22 :: rest := by
  unfold readString at h
  split at h
  · cases h
  next gathered rest' hgather =>
  split at h
  · next cs hdecode =>
    cases h
    obtain ⟨s, hs, hbytes⟩ := gather_sound hgather hdecode
    exact ⟨s, cs, hs, rfl, hbytes⟩
  · cases h

end CredentialCheck.Json
