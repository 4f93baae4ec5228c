import CredentialCheck.Identifier
import CredentialCheck.Proofs.Pattern.Folding
import CredentialCheck.Proofs.Pattern.Matching

/-!
# The texts that are identifiers

The two forms of identifiers without expressions: which characters stand where. Their expressions
describe just these texts.

* `UriText`, `LegacyText` and `IdText` are the texts.
* `fits_uriExpression_iff` are the texts of the expression of URI identifiers under any flags.
* `isUri_iff`, `isLegacy_iff` and `isIdentifier_iff`: the tests of identifiers find them.
* `UriText.not_legacyText`: no text has both forms, for the colon is no character of base 58. So the
  form that is named does not depend on the order of the tests (`classify_eq_swapped`), and the
  check against a form asked for is the test of that form (`accepts_iff`).
-/

namespace CredentialCheck.Identifier

open Pattern

/-! ## The forms -/

/-- A character of a scheme: a letter or a digit of ASCII, a plus, a minus or a point. -/
def IsSchemeChar (c : Char) : Prop := c.isAlphanum = true ∨ c ∈ ['+', '-', '.']

theorem not_isSchemeChar_colon : ¬ IsSchemeChar ':' := by
  rintro (h | h) <;> revert h <;> decide

/-- A scheme, a colon, and anything behind it. No character of a scheme is a colon, so the colon is
the first one. -/
def UriText (s : List Char) : Prop :=
  ∃ scheme tail, s = scheme ++ ':' :: tail ∧ scheme ≠ [] ∧ (∀ c ∈ scheme, IsSchemeChar c) ∧
    tail ≠ []

/-- The characters of base 58: the digits and letters of ASCII without `0`, `O`, `I` and `l`. -/
def base58Alphabet : List Char :=
  "123456789ABCDEFGHJKLMNPQRSTUVWXYZabcdefghijkmnopqrstuvwxyz".toList

/-- Characters of base 58, 21 or 22 of them. -/
def LegacyText (s : List Char) : Prop :=
  (s.length = 21 ∨ s.length = 22) ∧ ∀ c ∈ s, c ∈ base58Alphabet

/-- A text of either form. -/
def IdText (s : List Char) : Prop := UriText s ∨ LegacyText s

/-! ## Sets of characters -/

/-- The set of characters in the expression of URI identifiers. -/
def schemeItems : List SetItem :=
  [.range 'a' 'z', .range 'A' 'Z', .range '0' '9', .single '+', .single '-', .single '.']

/-- The set of characters in the expression of legacy identifiers. -/
def base58Items : List SetItem :=
  [.range '1' '9', .range 'A' 'H', .range 'J' 'N', .range 'P' 'Z', .range 'a' 'k', .range 'm' 'z']

/-- The letters and digits of ASCII as ranges. -/
theorem isAlphanum_eq (c : Char) : c.isAlphanum =
    ((decide (c.val ≥ 'A'.val ∧ c.val ≤ 'Z'.val) || (c.val ≥ 'a'.val && c.val ≤ 'z'.val)) ||
      (c.val ≥ '0'.val && c.val ≤ '9'.val)) := rfl

theorem admits_schemeItems (dotAll : Bool) (c : Char) :
    (CharTest.oneOf schemeItems).admits ⟨false, dotAll⟩ c = true ↔ IsSchemeChar c := by
  simp only [CharTest.admits, schemeItems, List.any_cons, List.any_nil, SetItem.admits,
    SetItem.holds, IsSchemeChar, isAlphanum_eq, Bool.false_eq_true, if_false, Bool.or_eq_true,
    Bool.and_eq_true, decide_eq_true_eq, beq_iff_eq, List.mem_cons, List.not_mem_nil, or_false,
    ge_iff_le, UInt32.le_iff_toNat_le, Char.toNat_val, or_assoc, eq_comm (b := c)]
  exact or_left_comm

/-- When case is ignored, the set of characters gains four letters. -/
theorem admits_schemeItems_ignoreCase (dotAll : Bool) (c : Char) :
    (CharTest.oneOf schemeItems).admits ⟨true, dotAll⟩ c = true ↔
      IsSchemeChar c ∨ c ∈ foldingLetters := by
  by_cases hmem : c ∈ foldingLetters
  · have hall : foldingLetters.all ((CharTest.oneOf schemeItems).admits ⟨true, dotAll⟩) = true := by
      cases dotAll <;> decide
    exact iff_of_true (List.all_eq_true.1 hall c hmem) (.inr hmem)
  · rw [CharTest.admits_ignoreCase (by cases dotAll <;> decide +kernel) hmem, admits_schemeItems,
      or_iff_left hmem]

/-- The colon has no case. -/
theorem admits_colon (flags : Flags) (c : Char) :
    (CharTest.literal ':').admits flags c = true ↔ c = ':' := by
  obtain ⟨ignoreCase, dotAll⟩ := flags
  have hplain : (CharTest.literal ':').admits ⟨false, dotAll⟩ c = true ↔ c = ':' := by
    rw [eq_comm (a := c)]
    exact beq_iff_eq
  cases ignoreCase with
  | false => exact hplain
  | true =>
    by_cases hmem : c ∈ foldingLetters
    · have hall : foldingLetters.all
          (fun d => ! (CharTest.literal ':').admits ⟨true, dotAll⟩ d && d != ':') = true := by
        cases dotAll <;> decide
      have hc := List.all_eq_true.1 hall c hmem
      rw [Bool.and_eq_true, Bool.not_eq_true', bne_iff_ne] at hc
      exact iff_of_false (Bool.eq_false_iff.1 hc.1) hc.2
    · rw [CharTest.admits_ignoreCase (by cases dotAll <;> decide +kernel) hmem, hplain]

theorem toNat_lt_of_mem_base58Alphabet {c : Char} (h : c ∈ base58Alphabet) : c.toNat < 0x80 := by
  have hall : base58Alphabet.all (·.toNat < 0x80) = true := by decide
  exact of_decide_eq_true (List.all_eq_true.1 hall c h)

/-- Below U+0080 the set and the alphabet are compared one by one; beyond there is nothing in
either. -/
theorem admits_base58Items (c : Char) :
    (CharTest.oneOf base58Items).admits .none c = true ↔ c ∈ base58Alphabet := by
  by_cases h : c.toNat < 0x80
  · have hall : ∀ n < 0x80, (CharTest.oneOf base58Items).admits .none (Char.ofNat n) =
        decide (Char.ofNat n ∈ base58Alphabet) := by decide +kernel
    have hc := hall c.toNat h
    rw [Char.ofNat_toNat] at hc
    rw [hc, decide_eq_true_iff]
  · constructor
    · intro hadmits
      simp only [CharTest.admits, base58Items, List.any_cons, List.any_nil, SetItem.admits,
        Flags.none, SetItem.holds, Bool.false_eq_true, if_false, Bool.or_eq_true, Bool.and_eq_true,
        decide_eq_true_eq, or_false, Char.reduceToNat] at hadmits
      omega
    · exact fun hmem => absurd (toNat_lt_of_mem_base58Alphabet hmem) h

/-! ## The tests -/

theorem read_uriExpression : Expression.read uriExpression =
    .ok (.seq (.repeated (.char (.oneOf schemeItems)) 1 none)
      (.seq (.char (.literal ':')) (.repeated (.char .any) 1 none))) := rfl

theorem read_legacyExpression : Expression.read legacyExpression =
    .ok (.repeated (.char (.oneOf base58Items)) 21 (some 22)) := rfl

/-- An expression that can be read fits the texts that it describes. -/
theorem fits_iff {expression : String} {e : Expression} (h : Expression.read expression = .ok e)
    (flags : Flags) (s : String) :
    fits expression flags (.string s) = true ↔ [] ∈ e.rests flags s.toList := by
  simp only [fits, compile, h, matchesWhole_iff]

/-- The expression of URI identifiers under any flags: when case is ignored the scheme may hold four
more letters, and without `dotAll` the tail holds no line feed. -/
theorem fits_uriExpression_iff (flags : Flags) (s : String) :
    fits uriExpression flags (.string s) = true ↔
      ∃ scheme tail, s.toList = scheme ++ ':' :: tail ∧ scheme ≠ [] ∧
        (∀ c ∈ scheme, IsSchemeChar c ∨ flags.ignoreCase = true ∧ c ∈ foldingLetters) ∧
        tail ≠ [] ∧ (flags.dotAll = true ∨ '\n' ∉ tail) := by
  have hscheme (c : Char) : (CharTest.oneOf schemeItems).admits flags c = true ↔
      IsSchemeChar c ∨ flags.ignoreCase = true ∧ c ∈ foldingLetters := by
    obtain ⟨ignoreCase, dotAll⟩ := flags
    cases ignoreCase with
    | false => simp only [admits_schemeItems, Bool.false_eq_true, false_and, or_false]
    | true => simp only [admits_schemeItems_ignoreCase, true_and]
  have htail (tail : List Char) : (∀ c ∈ tail, CharTest.any.admits flags c = true) ↔
      flags.dotAll = true ∨ '\n' ∉ tail := by
    simp only [CharTest.admits, Bool.or_eq_true, bne_iff_ne, ne_eq]
    cases flags.dotAll with
    | true => simp
    | false =>
      simp only [Bool.false_eq_true, false_or]
      exact ⟨fun h hmem => h _ hmem rfl, fun h c hc heq => h (heq ▸ hc)⟩
  simp only [fits_iff read_uriExpression, mem_rests_seq, mem_rests_char, mem_rests_repeated_char,
    hscheme, admits_colon, htail, Option.not_mem_none, false_implies, implies_true, and_true,
    List.append_nil]
  constructor
  · rintro ⟨t, ⟨scheme, hs, hchars, hlength⟩, u, ⟨c, rfl, rfl⟩, tail, rfl, hfeed, htail⟩
    exact ⟨scheme, u, hs, List.ne_nil_of_length_pos hlength, hchars,
      List.ne_nil_of_length_pos htail, hfeed⟩
  · rintro ⟨scheme, tail, hs, hne, hchars, htail, hfeed⟩
    exact ⟨':' :: tail, ⟨scheme, hs, hchars, List.length_pos_iff.2 hne⟩, tail,
      ⟨':', rfl, rfl⟩, tail, rfl, hfeed, List.length_pos_iff.2 htail⟩

theorem isUri_iff (s : String) : isUri (.string s) = true ↔ UriText s.toList := by
  simp only [isUri, fits_uriExpression_iff, uriFlags, Bool.false_eq_true, false_and, or_false,
    true_or, and_true, UriText]

theorem isLegacy_iff (s : String) : isLegacy (.string s) = true ↔ LegacyText s.toList := by
  simp only [isLegacy, fits_iff read_legacyExpression, mem_rests_repeated_char,
    admits_base58Items, List.append_nil, Option.mem_some_iff, forall_eq', LegacyText]
  constructor
  · rintro ⟨p, rfl, hp, hleast, hmost⟩
    exact ⟨by omega, hp⟩
  · rintro ⟨hlength, hs⟩
    exact ⟨s.toList, rfl, hs, by omega, by omega⟩

/-- **The texts that pass for identifiers are those of the two forms.** -/
theorem isIdentifier_iff (s : String) : isIdentifier (.string s) = true ↔ IdText s.toList := by
  rw [isIdentifier, Bool.or_eq_true, isUri_iff, isLegacy_iff, IdText]

/-! ## The forms have nothing in common -/

theorem UriText.not_legacyText {s : List Char} (h : UriText s) : ¬ LegacyText s := by
  obtain ⟨scheme, tail, rfl, -, -, -⟩ := h
  rintro ⟨-, hmem⟩
  have hcolon : ':' ∈ base58Alphabet := by
    apply hmem
    simp
  revert hcolon
  decide

theorem isLegacy_eq_false {s : String} (h : isUri (.string s) = true) :
    isLegacy (.string s) = false := by
  rw [isUri_iff] at h
  rw [← Bool.not_eq_true, isLegacy_iff]
  exact h.not_legacyText

/-- The form is the same if the legacy form is tried first. -/
theorem classify_eq_swapped (s : String) :
    classify (.string s) = if isLegacy (.string s) then .legacy
      else if isUri (.string s) then .uri else .invalid := by
  unfold classify
  cases huri : isUri (.string s) with
  | true => simp [isLegacy_eq_false huri]
  | false => simp

theorem classify_ne_invalid_iff (v : Value) : classify v ≠ .invalid ↔ isIdentifier v = true := by
  unfold classify isIdentifier
  cases isUri v <;> cases isLegacy v <;> simp

/-- The check by the tests: the name of a form asks for that form, `any` asks for either, and no
other text asks for anything. -/
theorem accepts_iff (s kind : String) :
    accepts (.string s) (.string kind) = true ↔
      kind = "any" ∧ isIdentifier (.string s) = true ∨ kind = "uri" ∧ isUri (.string s) = true ∨
        kind = "legacy" ∧ isLegacy (.string s) = true := by
  unfold accepts classify isIdentifier
  cases huri : isUri (.string s) with
  | true => simp [isLegacy_eq_false huri, Value.equal, Form.name]
  | false => cases isLegacy (.string s) <;> simp [Value.equal, Form.name]

theorem classify_ne_invalid_of_accepts {v asked : Value} (h : accepts v asked = true) :
    classify v ≠ .invalid := by
  intro hform
  rw [accepts, hform] at h
  cases h

end CredentialCheck.Identifier
