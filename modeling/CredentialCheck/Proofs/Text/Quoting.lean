import CredentialCheck.Text.Quoted
import Mathlib.Algebra.Group.Nat.Defs

/-!
# Reading quoted texts back

No two texts are quoted alike. Which mark a text stands between depends on the text, but it comes
first and so is known. Behind it each character can be read off: a backslash tells that an escape
begins, the character behind it how long the escape is, so one escape cannot be taken for the
beginning of another.

* `unescape?` reads one character back, `unescape?_escape` that it is the one that was written.
* `quotedBy_injective` and `quoted_injective` are the statements about whole texts.
-/

namespace CredentialCheck.Text

/-! ## Hexadecimal numbers -/

/-- The number that hexadecimal digits spell behind the number `n`. -/
def hexNumberFrom? (n : Nat) : List Char → Option Nat
  | [] => some n
  | c :: s => (hexValue? c).bind fun d => hexNumberFrom? (n * 16 + d) s

theorem hexNumberFrom?_append (n : Nat) (s t : List Char) :
    hexNumberFrom? n (s ++ t) = (hexNumberFrom? n s).bind fun m => hexNumberFrom? m t := by
  induction s generalizing n with
  | nil => rfl
  | cons c s ih => simp only [List.cons_append, hexNumberFrom?, ih, Option.bind_assoc]

/-- A number that fits the width is read back. -/
theorem hexNumberFrom?_fixedHex {width n : Nat} (h : n < 16 ^ width) :
    hexNumberFrom? 0 (fixedHex width n) = some n := by
  induction width generalizing n with
  | zero =>
    obtain rfl : n = 0 := by simpa using h
    rfl
  | succ width ih =>
    have hrest : n / 16 < 16 ^ width := by
      rw [Nat.pow_succ] at h
      exact Nat.div_lt_of_lt_mul (by rwa [Nat.mul_comm])
    rw [fixedHex, hexNumberFrom?_append, ih hrest]
    simp only [Option.bind_some, hexNumberFrom?, hexValue?_hexDigit _ (Nat.mod_lt n (by decide)),
      Option.some.injEq]
    omega

/-! ## One character -/

/-- The character whose number has so many hexadecimal digits at the front, and the rest. -/
def readNumbered? (width : Nat) (s : List Char) : Option (Char × List Char) :=
  (hexNumberFrom? 0 (s.take width)).map fun n => (Char.ofNat n, s.drop width)

/-- The first character of a text between marks, written as it is or by an escape, and the rest. -/
def unescape? : List Char → Option (Char × List Char)
  | [] => none
  | [c] => some (c, [])
  | c :: d :: s =>
    if c ≠ '\\' then some (c, d :: s)
    else if d = 't' then some ('\t', s)
    else if d = 'n' then some ('\n', s)
    else if d = 'r' then some ('\r', s)
    else if d = 'x' then readNumbered? 2 s
    else if d = 'u' then readNumbered? 4 s
    else if d = 'U' then readNumbered? 8 s
    else some (d, s)

theorem unescape?_plain {c : Char} (h : c ≠ '\\') (s : List Char) :
    unescape? (c :: s) = some (c, s) := by
  cases s with
  | nil => rfl
  | cons d s => rw [unescape?, if_pos h]

theorem readNumbered?_fixedHex (width : Nat) {c : Char} (h : c.toNat < 16 ^ width)
    (s : List Char) : readNumbered? width (fixedHex width c.toNat ++ s) = some (c, s) := by
  have hlength := length_fixedHex width c.toNat
  rw [readNumbered?, List.take_left' hlength, List.drop_left' hlength,
    hexNumberFrom?_fixedHex h, Option.map_some, Char.ofNat_toNat]

/-- The letter of a numbered escape tells its width, which is enough for the number. -/
theorem unescape?_numberedEscape (c : Char) (s : List Char) :
    unescape? (numberedEscape c ++ s) = some (c, s) := by
  have hvalid : c.toNat < 0x110000 := c.valid.elim (Nat.lt_trans · (by decide)) And.right
  unfold numberedEscape
  split
  · next h => exact readNumbered?_fixedHex 2 h s
  split
  · next h => exact readNumbered?_fixedHex 4 h s
  · exact readNumbered?_fixedHex 8 (Nat.lt_trans hvalid (by decide)) s

/-- A character is read back, if no mark is the letter of an escape. -/
theorem unescape?_escape {shown guarded : Char → Bool}
    (hmarks : ['t', 'n', 'r', 'x', 'u', 'U'].any guarded = false) (c : Char) (s : List Char) :
    unescape? (escape shown guarded c ++ s) = some (c, s) := by
  simp only [List.any_cons, List.any_nil, Bool.or_false, Bool.or_eq_false_iff] at hmarks
  unfold escape
  split
  · next h =>
    -- what stands behind the backslash is no letter of another escape
    have hne (d : Char) (hd : guarded d = false) (hd' : d ≠ '\\') : c ≠ d := by
      rintro rfl
      simp [hd, hd'] at h
    simp only [List.cons_append, List.nil_append, unescape?, ne_eq, not_true_eq_false, if_false]
    rw [if_neg (hne _ hmarks.1 (by decide)), if_neg (hne _ hmarks.2.1 (by decide)),
      if_neg (hne _ hmarks.2.2.1 (by decide)), if_neg (hne _ hmarks.2.2.2.1 (by decide)),
      if_neg (hne _ hmarks.2.2.2.2.1 (by decide)), if_neg (hne _ hmarks.2.2.2.2.2 (by decide))]
  next h =>
  split
  · next htab => exact htab ▸ rfl
  split
  · next hfeed => exact hfeed ▸ rfl
  split
  · next hreturn => exact hreturn ▸ rfl
  split
  · exact unescape?_plain (fun heq => h (.inr heq)) s
  · exact unescape?_numberedEscape c s

/-! ## Whole texts -/

/-- What can be read back character by character is written by one text only. -/
theorem flatMap_injective {code : Char → List Char}
    (hread : ∀ c s, unescape? (code c ++ s) = some (c, s)) {s t : List Char}
    (h : s.flatMap code = t.flatMap code) : s = t := by
  induction s generalizing t with
  | nil =>
    cases t with
    | nil => rfl
    | cons d t =>
      have hnone := hread d (t.flatMap code)
      rw [← List.flatMap_cons, ← h] at hnone
      cases hnone
  | cons c s ih =>
    have hc := hread c (s.flatMap code)
    rw [← List.flatMap_cons, h] at hc
    cases t with
    | nil => cases hc
    | cons d t =>
      rw [List.flatMap_cons, hread] at hc
      obtain ⟨rfl, hrest⟩ := Prod.mk.inj (Option.some.inj hc)
      rw [ih hrest.symm]

theorem quotationMark_cases (s : List Char) : quotationMark s = '"' ∨ quotationMark s = '\'' := by
  unfold quotationMark
  split
  · exact .inl rfl
  · exact .inr rfl

/-- **No two texts are quoted alike**, whichever characters are shown as they are. -/
theorem quotedBy_injective (shown : Char → Bool) {s t : List Char}
    (h : quotedBy shown s = quotedBy shown t) : s = t := by
  simp only [quotedBy, List.cons_append] at h
  obtain ⟨hmark, hrest⟩ := List.cons.inj h
  rw [← hmark] at hrest
  refine flatMap_injective (unescape?_escape ?_) (List.append_cancel_right hrest)
  rcases quotationMark_cases s with heq | heq <;> rw [heq] <;> decide

theorem quoted_injective {s t : String} (h : quoted s = quoted t) : s = t :=
  String.toList_inj.1 (quotedBy_injective isPrintable (String.ofList_inj.1 h))

/-- The quoted form of a text begins with a mark. -/
theorem head?_quoted (s : String) :
    (quoted s).toList.head? = some '"' ∨ (quoted s).toList.head? = some '\'' := by
  rw [quoted, String.toList_ofList]
  rcases quotationMark_cases s.toList with heq | heq
  · exact .inl (congrArg some heq)
  · exact .inr (congrArg some heq)

end CredentialCheck.Text
