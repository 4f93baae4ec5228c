import CredentialCheck.Proofs.Json.Strings

/-!
# The reader accepts the grammar

Every text of the grammar is read, and gives the value that it spells. The induction is on the depth
of nesting: a reader that is `Complete` for the values inside lists and objects makes the reader
one level up complete.

* `read_complete` is the statement about whole texts.
-/

namespace CredentialCheck.Json

open Text Grammar

/-! ## What stands around a value -/

/-- What may stand behind a value: white space, a comma or a closing bracket, or the end. -/
def Follows (bs : List UInt8) : Prop :=
  ∀ b ∈ bs.head?, isBlank b = true ∨ b = 0x2C ∨ b = 0x5D ∨ b = 0x7D

/-- What may stand behind a value ends a number. -/
theorem Follows.ends {bs : List UInt8} (h : Follows bs) : Ends bs := by
  intro b hb
  rcases h b hb with hblank | rfl | rfl | rfl
  · simp only [isBlank, Bool.or_eq_true, beq_iff_eq] at hblank
    rcases hblank with ((rfl | rfl) | rfl) | rfl <;> decide
  all_goals decide

theorem follows_nil : Follows [] := by
  intro b hb
  cases hb

/-- White space, then a comma or a closing bracket. -/
theorem follows_append {a : List Char} (ha : Blank a) {b : UInt8}
    (hb : b = 0x2C ∨ b = 0x5D ∨ b = 0x7D) (bs : List UInt8) :
    Follows (Utf8.encode a ++ b :: bs) := by
  cases a with
  | nil =>
    rintro c ⟨⟩
    exact .inr hb
  | cons c a =>
    obtain ⟨hlt, hblank⟩ := isBlank_of_mem (ha c List.mem_cons_self)
    rw [encode_cons_of_lt hlt]
    rintro d ⟨⟩
    exact .inl hblank

theorem follows_blank {a : List Char} (ha : Blank a) : Follows (Utf8.encode a) := by
  cases a with
  | nil => exact follows_nil
  | cons c a =>
    obtain ⟨hlt, hblank⟩ := isBlank_of_mem (ha c List.mem_cons_self)
    rw [encode_cons_of_lt hlt]
    rintro d ⟨⟩
    exact .inl hblank

/-- How a value begins: not with white space, nor like the end of a list. -/
def Begins (bs : List UInt8) : Prop := ∃ b tail, bs = b :: tail ∧ isBlank b = false ∧ b ≠ 0x5D

theorem begins_of_isDigit {b : UInt8} (hb : isDigit b = true) (bs : List UInt8) :
    Begins (b :: bs) := by
  refine ⟨b, bs, rfl, ?_, by rintro rfl; cases hb⟩
  simp only [isDigit, Bool.and_eq_true, decide_eq_true_eq, UInt8.le_iff_toNat_le] at hb
  rw [← Bool.not_eq_true]
  intro hblank
  simp only [isBlank, Bool.or_eq_true, beq_iff_eq] at hblank
  rcases hblank with ((rfl | rfl) | rfl) | rfl <;> exact absurd hb (by decide)

/-- A reader of all the values that a relation derives, behind any white space. -/
structure Complete (element : List Char → Value → Prop) (reader : Reader Value) : Prop where
  begins : ∀ {s v}, element s v → Begins (Utf8.encode s)
  reads : ∀ {a s v rest}, Blank a → element s v → Follows rest →
    reader (Utf8.encode a ++ (Utf8.encode s ++ rest)) = .ok (v, rest)

variable {element : List Char → Value → Prop} {reader : Reader Value}

/-! ## Lists -/

/-- The reader of elements is called behind white space. It needs a step for each element, and has
more bytes than that in front of it. -/
theorem readElements_complete (hreader : Complete element reader) {s : List Char} {vs : List Value}
    (h : ElementsText element s vs) (rest : List UInt8) :
    ∃ b tail, skipBlank (Utf8.encode s ++ 0x5D :: rest) = b :: tail ∧ b ≠ 0x5D ∧
      vs.length ≤ tail.length + 1 ∧
      ∀ fuel, vs.length ≤ fuel → readElements reader fuel (b :: tail) = .ok (vs, rest) := by
  induction h with
  | @last a s c v ha hv hc =>
    obtain ⟨b, tail, heq, hblank, hbracket⟩ := hreader.begins hv
    have hread := hreader.reads (a := []) (by intro d hd; cases hd) hv
      (follows_append hc (.inr (.inl rfl)) rest)
    rw [Utf8.encode_nil, List.nil_append, heq, List.cons_append] at hread
    refine ⟨b, tail ++ (Utf8.encode c ++ 0x5D :: rest), ?_, hbracket, by simp, ?_⟩
    · rw [Utf8.encode_append, Utf8.encode_append, List.append_assoc, List.append_assoc,
        skipBlank_append ha, heq, List.cons_append, skipBlank_cons hblank]
    · intro fuel hfuel
      obtain ⟨fuel, rfl⟩ := Nat.exists_eq_succ_of_ne_zero (Nat.ne_of_gt hfuel)
      simp only [readElements, hread, skipBlank_append hc,
        skipBlank_cons (show isBlank 0x5D = false from rfl)]
  | @more a s c t v vs ha hv hc _ ih =>
    obtain ⟨b', tail', hskip, hbracket', hlength, ih⟩ := ih
    obtain ⟨b, tail, heq, hblank, hbracket⟩ := hreader.begins hv
    have hread := hreader.reads (a := []) (by intro d hd; cases hd) hv
      (follows_append hc (.inl rfl) (Utf8.encode t ++ 0x5D :: rest))
    rw [Utf8.encode_nil, List.nil_append, heq, List.cons_append] at hread
    refine ⟨b, tail ++ (Utf8.encode c ++ 0x2C :: (Utf8.encode t ++ 0x5D :: rest)), ?_, hbracket,
      ?_, ?_⟩
    · rw [Utf8.encode_append, Utf8.encode_append, Utf8.encode_append,
        encode_cons_of_lt (by decide)]
      simp only [List.append_assoc, List.cons_append]
      rw [skipBlank_append ha, heq, List.cons_append, skipBlank_cons hblank]
      rfl
    · have := length_skipBlank_le (Utf8.encode t ++ 0x5D :: rest)
      rw [hskip] at this
      simp only [List.length_cons, List.length_append] at this ⊢
      omega
    · intro fuel hfuel
      rw [List.length_cons] at hfuel
      obtain ⟨fuel, rfl⟩ : ∃ n, fuel = n + 1 := ⟨fuel - 1, by omega⟩
      simp only [readElements, hread, skipBlank_append hc,
        skipBlank_cons (show isBlank 0x2C = false from rfl), hskip]
      split
      · next heq => cases heq
      · next heq => exact absurd (List.cons.inj heq).1 hbracket'
      · simp only [ih fuel (by omega)]

theorem readList_complete (hreader : Complete element reader) {s : List Char} {vs : List Value}
    (h : ElementsText element s vs) (rest : List UInt8) :
    readList reader (Utf8.encode s ++ 0x5D :: rest) = .ok (.list vs, rest) := by
  obtain ⟨b, tail, hskip, hbracket, hlength, hread⟩ := readElements_complete hreader h rest
  simp only [readList, hskip]
  split
  · next heq => cases heq
  · next heq => exact absurd (List.cons.inj heq).1 hbracket
  · rw [hread _ (by simp only [List.length_cons]; omega)]

/-! ## Objects -/

/-- The key and the value of an entry, from behind the opening mark of the key. -/
theorem readEntry_complete (hreader : Complete element reader) {s : List Char} {e : Value × Value}
    (h : EntryText element s e) {rest : List UInt8} (hrest : Follows rest) :
    ∃ key v tail behind, e = (.string key, v) ∧ Utf8.encode s = 0x22 :: tail ∧
      readKey (tail ++ rest) = .ok (key, behind) ∧ reader behind = .ok (v, rest) := by
  obtain @⟨k, cs, a, b, s, v, hk, ha, hb, hv⟩ := h
  refine ⟨String.ofList cs, v, Utf8.encode k ++ 0x22 :: (Utf8.encode a ++ 0x3A ::
    (Utf8.encode b ++ Utf8.encode s)), Utf8.encode b ++ (Utf8.encode s ++ rest), rfl, ?_, ?_,
    hreader.reads hb hv hrest⟩
  · simp only [Utf8.encode_append, encode_cons_of_lt (show '"'.toNat < 0x80 by decide),
      encode_cons_of_lt (show ':'.toNat < 0x80 by decide), List.append_assoc, List.cons_append]
    rfl
  · simp only [List.append_assoc, List.cons_append, readKey, readString_complete hk,
      skipBlank_append ha, skipBlank_cons (show isBlank 0x3A = false from rfl)]

theorem readEntries_complete (hreader : Complete element reader) {s : List Char}
    {es : List (Value × Value)} (h : EntriesText element s es) (rest : List UInt8) :
    ∃ tail, skipBlank (Utf8.encode s ++ 0x7D :: rest) = 0x22 :: tail ∧
      es.length ≤ tail.length + 1 ∧
      ∀ fuel, es.length ≤ fuel → readEntries reader fuel tail = .ok (es, rest) := by
  have hmark : isBlank 0x22 = false := rfl
  induction h with
  | @last a s c e ha he hc =>
    obtain ⟨key, v, tail, behind, rfl, heq, hkey, hread⟩ := readEntry_complete hreader he
      (follows_append hc (.inr (.inr rfl)) rest)
    refine ⟨tail ++ (Utf8.encode c ++ 0x7D :: rest), ?_, by simp, ?_⟩
    · rw [Utf8.encode_append, Utf8.encode_append, List.append_assoc, List.append_assoc,
        skipBlank_append ha, heq, List.cons_append, skipBlank_cons hmark]
    · intro fuel hfuel
      obtain ⟨fuel, rfl⟩ := Nat.exists_eq_succ_of_ne_zero (Nat.ne_of_gt hfuel)
      simp only [readEntries, hkey, hread, skipBlank_append hc,
        skipBlank_cons (show isBlank 0x7D = false from rfl)]
  | @more a s c t e es ha he hc _ ih =>
    obtain ⟨tail', hskip, hlength, ih⟩ := ih
    obtain ⟨key, v, tail, behind, rfl, heq, hkey, hread⟩ := readEntry_complete hreader he
      (follows_append hc (.inl rfl) (Utf8.encode t ++ 0x7D :: rest))
    refine ⟨tail ++ (Utf8.encode c ++ 0x2C :: (Utf8.encode t ++ 0x7D :: rest)), ?_, ?_, ?_⟩
    · rw [Utf8.encode_append, Utf8.encode_append, Utf8.encode_append,
        encode_cons_of_lt (by decide)]
      simp only [List.append_assoc, List.cons_append]
      rw [skipBlank_append ha, heq, List.cons_append, skipBlank_cons hmark]
      rfl
    · have := length_skipBlank_le (Utf8.encode t ++ 0x7D :: rest)
      rw [hskip] at this
      simp only [List.length_cons, List.length_append] at this ⊢
      omega
    · intro fuel hfuel
      rw [List.length_cons] at hfuel
      obtain ⟨fuel, rfl⟩ : ∃ n, fuel = n + 1 := ⟨fuel - 1, by omega⟩
      simp only [readEntries, hkey, hread, skipBlank_append hc,
        skipBlank_cons (show isBlank 0x2C = false from rfl), hskip, ih fuel (by omega)]

theorem readObject_complete (hreader : Complete element reader) {s : List Char}
    {es : List (Value × Value)} (h : EntriesText element s es) (rest : List UInt8) :
    readObject reader (Utf8.encode s ++ 0x7D :: rest) = .ok (Value.dictOf es, rest) := by
  obtain ⟨tail, hskip, hlength, hread⟩ := readEntries_complete hreader h rest
  simp only [readObject, hskip, hread _ hlength]

/-! ## Values -/

/-- A number begins with a digit or a sign. -/
theorem begins_number {maxDigits : Nat} {s : List Char} {v : Value} (h : NumberText maxDigits s v) :
    ∃ b bs, Utf8.encode s = b :: bs ∧ (b = 0x2D ∨ isDigit b = true) := by
  cases h with
  | @unsigned w f x places exponent hw _ _ _ =>
    obtain ⟨b, bs, hb, heq⟩ := hw.1.encode_eq
    rw [Utf8.encode_append, Utf8.encode_append, heq]
    exact ⟨b, _, rfl, .inr hb⟩
  | @signed w f x places exponent _ _ _ _ =>
    rw [encode_cons_of_lt (by decide)]
    exact ⟨_, _, rfl, .inl rfl⟩

theorem readValueWith_number (maxDigits : Nat) {b : UInt8} (hb : b = 0x2D ∨ isDigit b = true)
    (bs : List UInt8) :
    readValueWith maxDigits reader (b :: bs) = readNumber maxDigits (b :: bs) := by
  rcases hb with rfl | hb
  · rfl
  · obtain ⟨c, tail, heq, hblank, -⟩ := begins_of_isDigit hb bs
    cases heq
    simp only [readValueWith, skipBlank_cons hblank]
    split
    case h_1 heq => cases heq
    case h_10 heq =>
      cases heq
      rw [if_pos (.inr hb)]
    -- the first bytes of the words, the marks and the brackets are no digits
    all_goals
      next heq =>
        cases heq
        cases hb

/-- A value begins with no white space, and not like the end of a list. -/
theorem begins_value {maxDigits : Nat} {s : List Char} {v : Value}
    (h : ValueTextWith element maxDigits s v) : Begins (Utf8.encode s) := by
  have hascii {c : Char} (hc : c.toNat < 0x80) (hblank : isBlank (UInt8.ofNat c.toNat) = false)
      (hbracket : UInt8.ofNat c.toNat ≠ 0x5D) (t : List Char) : Begins (Utf8.encode (c :: t)) :=
    ⟨_, _, encode_cons_of_lt hc t, hblank, hbracket⟩
  cases h with
  | number h =>
    obtain ⟨b, bs, heq, rfl | hb⟩ := begins_number h
    · exact ⟨_, _, heq, rfl, by decide⟩
    · rw [heq]
      exact begins_of_isDigit hb bs
  | null | true | false | nan | infinity | negativeInfinity | string _ | emptyList _ | list _
    | emptyObject _ | object _ => exact hascii (by decide) rfl (by decide) _

theorem readWord_append {word : List Char} (h : ∀ c ∈ word, c.toNat < 0x80) (rest : List UInt8) :
    readWord word (Utf8.encode word ++ rest) = .ok rest := by
  induction word with
  | nil => rfl
  | cons c word ih =>
    have hc := h c List.mem_cons_self
    rw [encode_cons_of_lt hc, List.cons_append, readWord, Utf8.toNat_ofNat_of_lt (by omega),
      if_pos rfl]
    exact ih fun d hd => h d (List.mem_cons_of_mem c hd)

/-- A word stands for its value. -/
theorem map_readWord (word : String) (h : word.toList.all (·.toNat < 0x80) = true) (v : Value)
    (rest : List UInt8) :
    (readWord word.toList (Utf8.encode word.toList ++ rest)).map (v, ·) = .ok (v, rest) := by
  rw [readWord_append fun c hc => of_decide_eq_true (List.all_eq_true.1 h c hc)]
  rfl

/-- Behind white space, one level up: by the first byte of the value. -/
theorem readValueWith_complete (hreader : Complete element reader) {maxDigits : Nat}
    {s : List Char} {v : Value} (h : ValueTextWith element maxDigits s v) {rest : List UInt8}
    (hrest : Follows rest) :
    readValueWith maxDigits reader (Utf8.encode s ++ rest) = .ok (v, rest) := by
  cases h with
  | number h =>
    obtain ⟨b, bs, heq, hb⟩ := begins_number h
    have hread := readNumber_complete h hrest.ends
    rw [heq, List.cons_append] at hread ⊢
    rw [readValueWith_number maxDigits hb, hread]
  | null => exact map_readWord "ull" (by decide) .null rest
  | true => exact map_readWord "rue" (by decide) (.bool true) rest
  | false => exact map_readWord "alse" (by decide) (.bool false) rest
  | nan => exact map_readWord "aN" (by decide) (.float .nan) rest
  | infinity => exact map_readWord "nfinity" (by decide) (.float (.infinite false)) rest
  | negativeInfinity => exact map_readWord "nfinity" (by decide) (.float (.infinite true)) rest
  | @string s cs h =>
    rw [Utf8.encode_append, encode_cons_of_lt (by decide), List.append_assoc]
    show (readString (Utf8.encode s ++ 0x22 :: rest)).map _ = _
    rw [readString_complete h]
    rfl
  | @emptyList a ha =>
    rw [Utf8.encode_append, encode_cons_of_lt (by decide), List.append_assoc]
    show readList reader (Utf8.encode a ++ 0x5D :: rest) = _
    simp only [readList, skipBlank_append ha, skipBlank_cons (show isBlank 0x5D = false from rfl)]
  | @list s vs h =>
    rw [Utf8.encode_append, encode_cons_of_lt (by decide), List.append_assoc]
    exact readList_complete hreader h rest
  | @emptyObject a ha =>
    rw [Utf8.encode_append, encode_cons_of_lt (by decide), List.append_assoc]
    show readObject reader (Utf8.encode a ++ 0x7D :: rest) = _
    simp only [readObject, skipBlank_append ha, skipBlank_cons (show isBlank 0x7D = false from rfl)]
  | @object s es h =>
    rw [Utf8.encode_append, encode_cons_of_lt (by decide), List.append_assoc]
    exact readObject_complete hreader h rest

theorem readValueWith_append {a : List Char} (ha : Blank a) (maxDigits : Nat) (bs : List UInt8) :
    readValueWith maxDigits reader (Utf8.encode a ++ bs) = readValueWith maxDigits reader bs := by
  simp only [readValueWith, skipBlank_append ha]

/-- On no level left nothing is a value. -/
theorem complete_readValue (maxDigits depth : Nat) :
    Complete (ValueText maxDigits depth) (readValue maxDigits depth) := by
  induction depth with
  | zero => exact ⟨fun h => h.elim, fun _ h => h.elim⟩
  | succ depth ih =>
    refine ⟨begins_value, fun {a s v rest} ha hv hrest => ?_⟩
    show readValueWith maxDigits (readValue maxDigits depth) _ = _
    rw [readValueWith_append ha]
    exact readValueWith_complete ih hv hrest

/-- **Every text of the grammar is read, and gives the value that it spells.** -/
theorem read_complete {limits : Limits} {s : List Char} {v : Value} (h : WholeText limits s v) :
    read limits (Utf8.encode s) = .ok v := by
  obtain @⟨a, s, b, v, ha, hv, hb⟩ := h
  have hread := (complete_readValue limits.digits limits.depth).reads ha hv (follows_blank hb)
  have hskip : skipBlank (Utf8.encode b) = [] := by
    have := skipBlank_append hb []
    rwa [List.append_nil] at this
  rw [Utf8.encode_append, Utf8.encode_append, List.append_assoc]
  simp only [read, hread, hskip]

end CredentialCheck.Json
