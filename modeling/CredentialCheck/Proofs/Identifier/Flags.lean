import CredentialCheck.Proofs.Identifier.Forms
import CredentialCheck.Proofs.Pattern.Shared
import CredentialCheck.Proofs.Pattern.Touches

/-!
# The expression of URI identifiers under other flags

A cell made of the expression of URI identifiers may have other flags than the shared one. Without
`dotAll` it misses the identifiers with a line feed, and no others: a line feed cannot stand in a
scheme, so it is in the tail, and there every point but that of `dotAll` stops at it. When case is
ignored, four letters beyond ASCII may stand in the scheme, as any letter of ASCII may.

* `InAscii` relates a text to one with letters of ASCII in place of the four.
* `uriExpression_flags` is the statement about the four settings of the flags.
-/

namespace CredentialCheck.Identifier

open Pattern

/-! ## Answers of cells -/

/-- However it has been used, a cell answers with the whole length just if its expression fits. -/
theorem fullmatch_uriExpression {c : Cell} {flags : Flags} (h : c.For uriExpression flags)
    (s : String) : (c.fullmatch (.string s)).1 =
      .ok (if fits uriExpression flags (.string s) then some s.length else none) := by
  simp only [Cell.fullmatch_eq, h.get.1, fits, compile, read_uriExpression]
  rfl

/-! ## Line feeds -/

theorem not_isSchemeChar_lineFeed : ¬ IsSchemeChar '\n' := by
  rintro (h | h) <;> revert h <;> decide

/-- Without `dotAll` the identifiers with a line feed are missed. -/
theorem fits_none_iff (s : String) : fits uriExpression .none (.string s) = true ↔
    isUri (.string s) = true ∧ '\n' ∉ s.toList := by
  simp only [fits_uriExpression_iff, isUri_iff, UriText, Flags.none, Bool.false_eq_true,
    false_and, or_false, false_or]
  constructor
  · rintro ⟨scheme, tail, heq, hne, hscheme, htail, hfeed⟩
    refine ⟨⟨scheme, tail, heq, hne, hscheme, htail⟩, ?_⟩
    rw [heq, List.mem_append, List.mem_cons]
    rintro (hmem | hcolon | hmem)
    · exact not_isSchemeChar_lineFeed (hscheme _ hmem)
    · exact absurd hcolon (by decide)
    · exact hfeed hmem
  · rintro ⟨⟨scheme, tail, heq, hne, hscheme, htail⟩, hfeed⟩
    refine ⟨scheme, tail, heq, hne, hscheme, htail, fun hmem => hfeed ?_⟩
    rw [heq]
    exact List.mem_append_right _ (List.mem_cons_of_mem _ hmem)

/-! ## Letters in either case -/

/-- The second text is the first with some letter of ASCII in place of each of the four in front of
the first colon. -/
inductive InAscii : List Char → List Char → Prop
  | nil : InAscii [] []
  | colon (behind : List Char) : InAscii (':' :: behind) (':' :: behind)
  | letter {c d : Char} {s t : List Char} (hc : c ∈ foldingLetters) (hd : d.isAlpha = true)
    (h : InAscii s t) : InAscii (c :: s) (d :: t)
  | other {c : Char} {s t : List Char} (hc : c ∉ foldingLetters) (hcolon : c ≠ ':')
    (h : InAscii s t) : InAscii (c :: s) (c :: t)

/-- A colon with characters of one kind in front of it, if any, and a rest of some kind behind. -/
def Cut (P : Char → Prop) (Q : List Char → Prop) (s : List Char) : Prop :=
  ∃ front behind, s = front ++ ':' :: behind ∧ (∀ c ∈ front, P c) ∧ Q behind

section

variable {P : Char → Prop} {Q : List Char → Prop} {s t : List Char}

theorem not_cut_nil : ¬ Cut P Q [] := by
  rintro ⟨front, behind, heq, -⟩
  exact absurd heq (by simp)

theorem cut_cons_iff {c : Char} : Cut P Q (c :: s) ↔ c = ':' ∧ Q s ∨ P c ∧ Cut P Q s := by
  constructor
  · rintro ⟨front, behind, heq, hfront, hbehind⟩
    cases front with
    | nil =>
      obtain ⟨rfl, rfl⟩ := List.cons.inj heq
      exact .inl ⟨rfl, hbehind⟩
    | cons d front =>
      obtain ⟨rfl, rfl⟩ := List.cons.inj heq
      obtain ⟨hd, hfront⟩ := List.forall_mem_cons.1 hfront
      exact .inr ⟨hd, front, behind, rfl, hfront, hbehind⟩
  · rintro (⟨rfl, hs⟩ | ⟨hc, front, behind, rfl, hfront, hbehind⟩)
    · exact ⟨[], s, rfl, fun _ h => absurd h List.not_mem_nil, hs⟩
    · exact ⟨c :: front, behind, rfl, List.forall_mem_cons.2 ⟨hc, hfront⟩, hbehind⟩

/-- A scheme has a first character. -/
theorem exists_scheme_iff : (∃ scheme tail, s = scheme ++ ':' :: tail ∧ scheme ≠ [] ∧
      (∀ c ∈ scheme, P c) ∧ Q tail) ↔ ∃ c t, s = c :: t ∧ P c ∧ Cut P Q t := by
  constructor
  · rintro ⟨scheme, tail, rfl, hne, hscheme, htail⟩
    obtain ⟨c, scheme, rfl⟩ := List.exists_cons_of_ne_nil hne
    obtain ⟨hc, hscheme⟩ := List.forall_mem_cons.1 hscheme
    exact ⟨c, _, rfl, hc, scheme, tail, rfl, hscheme, htail⟩
  · rintro ⟨c, _, rfl, hc, scheme, tail, rfl, hscheme, htail⟩
    exact ⟨c :: scheme, tail, rfl, List.cons_ne_nil c scheme,
      List.forall_mem_cons.2 ⟨hc, hscheme⟩, htail⟩

end

/-- A character of a scheme when case is ignored. -/
def IsWideSchemeChar (c : Char) : Prop := IsSchemeChar c ∨ c ∈ foldingLetters

theorem isSchemeChar_of_isAlpha {c : Char} (h : c.isAlpha = true) : IsSchemeChar c := by
  refine .inl ?_
  rw [Char.isAlphanum, h, Bool.true_or]

theorem not_isWideSchemeChar_colon : ¬ IsWideSchemeChar ':' :=
  not_or.2 ⟨not_isSchemeChar_colon, by decide⟩

theorem ne_colon_of_isWideSchemeChar {c : Char} (h : IsWideSchemeChar c) : c ≠ ':' :=
  fun heq => not_isWideSchemeChar_colon (heq ▸ h)

section

variable {Q : List Char → Prop} {s t : List Char}

/-- Replacing one character by the other leaves it fit for a scheme, or unfit. -/
theorem InAscii.cut_iff (h : InAscii s t) : Cut IsWideSchemeChar Q s ↔ Cut IsSchemeChar Q t := by
  induction h with
  | nil => exact iff_of_false not_cut_nil not_cut_nil
  | colon behind =>
    simp only [cut_cons_iff, not_isWideSchemeChar_colon, not_isSchemeChar_colon, false_and,
      or_false]
  | @letter c d s t hc hd _ ih =>
    have hwide : IsWideSchemeChar c := .inr hc
    have hplain := isSchemeChar_of_isAlpha hd
    simp only [cut_cons_iff, hwide, hplain, ne_colon_of_isWideSchemeChar hwide,
      ne_colon_of_isWideSchemeChar (.inl hplain), true_and, false_and, false_or, ih]
  | @other c s t hc hcolon _ ih =>
    have hsame : IsWideSchemeChar c ↔ IsSchemeChar c := or_iff_left hc
    simp only [cut_cons_iff, hcolon, hsame, false_and, false_or, ih]

/-- A scheme of the wider kind becomes one of the usual kind. -/
theorem InAscii.scheme_iff (h : InAscii s t) :
    (∃ c r, s = c :: r ∧ IsWideSchemeChar c ∧ Cut IsWideSchemeChar Q r) ↔
      ∃ c r, t = c :: r ∧ IsSchemeChar c ∧ Cut IsSchemeChar Q r := by
  have hcons {P : Char → Prop} {c : Char} {u : List Char} :
      (∃ d r, c :: u = d :: r ∧ P d ∧ Cut P Q r) ↔ P c ∧ Cut P Q u :=
    ⟨fun ⟨_, _, heq, hr⟩ => (List.cons.inj heq).1 ▸ (List.cons.inj heq).2 ▸ hr,
      fun hu => ⟨c, u, rfl, hu⟩⟩
  cases h with
  | nil => simp
  | colon behind =>
    simp only [hcons, not_isWideSchemeChar_colon, not_isSchemeChar_colon, false_and]
  | @letter c d s t hc hd h =>
    have hwide : IsWideSchemeChar c := .inr hc
    simp only [hcons, hwide, isSchemeChar_of_isAlpha hd, true_and, h.cut_iff]
  | @other c s t hc hcolon h =>
    have hsame : IsWideSchemeChar c ↔ IsSchemeChar c := or_iff_left hc
    simp only [hcons, hsame, h.cut_iff]

end

theorem InAscii.length_eq {s t : List Char} (h : InAscii s t) : s.length = t.length := by
  induction h with
  | nil => rfl
  | colon behind => rfl
  | letter _ _ _ ih => rw [List.length_cons, List.length_cons, ih]
  | other _ _ _ ih => rw [List.length_cons, List.length_cons, ih]

/-- When case is ignored, a text fits if it does with letters of ASCII in place of the four. -/
theorem InAscii.fits_eq {s t : String} (h : InAscii s.toList t.toList) (dotAll : Bool) :
    fits uriExpression ⟨true, dotAll⟩ (.string s) =
      fits uriExpression ⟨false, dotAll⟩ (.string t) := by
  rw [Bool.eq_iff_iff, fits_uriExpression_iff, fits_uriExpression_iff]
  simp only [true_and, Bool.false_eq_true, false_and, or_false]
  exact exists_scheme_iff.trans (h.scheme_iff.trans exists_scheme_iff.symm)

/-! ## The flags -/

/-- **The flags of the expression of URI identifiers.** A cell made of the expression without flags,
used before or not, finds the URI identifiers that hold no line feed; with `dotAll` it finds them
all. What it finds is the whole text. When case is ignored besides, it answers for a text as it does
otherwise for the text with letters of ASCII in place of the four that are variants of such letters,
in front of the first colon. -/
theorem uriExpression_flags (s : String) :
    (∀ c : Cell, c.For uriExpression .none → (c.fullmatch (.string s)).1 =
        .ok (if isUri (.string s) = true ∧ '\n' ∉ s.toList then some s.length else none)) ∧
      (∀ c : Cell, c.For uriExpression ⟨false, true⟩ → (c.fullmatch (.string s)).1 =
        .ok (if isUri (.string s) = true then some s.length else none)) ∧
      ∀ t : String, InAscii s.toList t.toList → ∀ (dotAll : Bool) (wide plain : Cell),
        wide.For uriExpression ⟨true, dotAll⟩ → plain.For uriExpression ⟨false, dotAll⟩ →
        (wide.fullmatch (.string s)).1 = (plain.fullmatch (.string t)).1 := by
  refine ⟨fun c hc => ?_, fun c hc => fullmatch_uriExpression hc s,
    fun t ht dotAll wide plain hwide hplain => ?_⟩
  · rw [fullmatch_uriExpression hc]
    simp only [fits_none_iff]
  · have hlength : s.length = t.length := by
      simpa only [String.length_toList] using ht.length_eq
    rw [fullmatch_uriExpression hwide, fullmatch_uriExpression hplain, ht.fits_eq, hlength]

/-- A long s and a Kelvin sign are taken for letters of the scheme; behind the colon they need not
be. A line feed there is missed without `dotAll`. -/
theorem uriExpression_flags_kelvin :
    (InAscii "\u017f\u212a:\u212a".toList "xk:\u212a".toList ∧
        (Cell.fresh (.string uriExpression) ⟨true, false⟩).For uriExpression ⟨true, false⟩ ∧
        (Cell.fresh (.string uriExpression) .none).get.2.1.For uriExpression .none ∧
        (Cell.fresh (.string uriExpression) ⟨false, true⟩).For uriExpression ⟨false, true⟩) ∧
      ((Cell.fresh (.string uriExpression) ⟨true, false⟩).fullmatch
        (.string "\u017f\u212a:\u212a")).1 = .ok (some 4) ∧
      ((Cell.fresh (.string uriExpression) .none).get.2.1.fullmatch (.string "a:\n")).1 = .ok none ∧
      ((Cell.fresh (.string uriExpression) ⟨false, true⟩).fullmatch (.string "a:\n")).1 =
        .ok (some 3) := by
  have hascii : InAscii "\u017f\u212a:\u212a".toList "xk:\u212a".toList :=
    .letter (by decide) (by decide) (.letter (by decide) (by decide) (.colon _))
  have hwide := Cell.for_fresh uriExpression ⟨true, false⟩
  have hplain := (Cell.for_fresh uriExpression .none).get.2
  have hdotAll := Cell.for_fresh uriExpression ⟨false, true⟩
  have hxk : isUri (.string "xk:\u212a") = true := by decide +kernel
  have hfeed : isUri (.string "a:\n") = true := by decide +kernel
  refine ⟨⟨hascii, hwide, hplain, hdotAll⟩, ?_, ?_, ?_⟩
  · rw [(uriExpression_flags _).2.2 _ hascii false _ _ hwide hplain,
      (uriExpression_flags _).1 _ hplain, if_pos ⟨hxk, by decide⟩]
    rfl
  · rw [(uriExpression_flags _).1 _ hplain, if_neg (by decide)]
  · rw [(uriExpression_flags _).2.1 _ hdotAll, if_pos hfeed]
    rfl

end CredentialCheck.Identifier
