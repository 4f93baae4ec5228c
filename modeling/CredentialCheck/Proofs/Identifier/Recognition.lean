import CredentialCheck.Proofs.Identifier.Forms
import CredentialCheck.Proofs.Pattern.Touches

/-!
# What the two tests recognise

The tests of the two forms as statements about texts. A URI identifier is cut at its first colon,
so it has one scheme and one tail. A legacy identifier is told by its length and its characters, so
it rarely stays one when something is put behind it. Nothing but a text passes either test, and it
makes no difference what the shared cells have been used for before.

* `UriParts` are the parts of a URI identifier, `FirstColon` says where it is cut.
* `isUri_recognises` and `isLegacy_recognises` are the statements about the tests.
-/

namespace CredentialCheck.Identifier

open Pattern

/-! ## Cutting a list -/

section

variable {α : Type} [BEq α] [LawfulBEq α] {a : α} {before before' behind behind' : List α}

/-- Behind a stretch without `a` the first `a` is the next one. -/
theorem idxOf?_append_cons (h : a ∉ before) :
    (before ++ a :: behind).idxOf? a = some before.length := by
  refine List.idxOf?_eq_some_iff.2 ⟨by simp, by simp, fun j hj heq => h ?_⟩
  rw [List.getElem_append_left hj] at heq
  exact heq ▸ List.getElem_mem hj

/-- A list is cut at its first `a` in one way. -/
theorem append_cons_injective (h : a ∉ before) (h' : a ∉ before')
    (heq : before ++ a :: behind = before' ++ a :: behind') :
    before = before' ∧ behind = behind' := by
  have hlength : before.length = before'.length := by
    have hidx : (before ++ a :: behind).idxOf? a = some before.length := idxOf?_append_cons h
    rw [heq, idxOf?_append_cons h'] at hidx
    exact (Option.some.inj hidx).symm
  obtain ⟨hbefore, hrest⟩ := List.append_inj heq hlength
  exact ⟨hbefore, (List.cons.inj hrest).2⟩

/-- What stands in front of the first `a`, and behind it. -/
theorem exists_of_idxOf?_eq_some {l : List α} {p : Nat} (h : l.idxOf? a = some p) :
    ∃ behind, l = l.take p ++ a :: behind := by
  obtain ⟨hp, hget, -⟩ := List.idxOf?_eq_some_iff.1 h
  refine ⟨l.drop (p + 1), ?_⟩
  rw [← hget, List.getElem_cons_drop, List.take_append_drop]

end

/-! ## URI identifiers -/

/-- The parts of a URI identifier. -/
structure UriParts (s scheme tail : String) : Prop where
  eq_append : s = scheme ++ ":" ++ tail
  scheme_ne : scheme ≠ ""
  isSchemeChar : ∀ c ∈ scheme.toList, IsSchemeChar c
  tail_ne : tail ≠ ""

/-- The first colon is at the place, with a scheme in front of it and something behind it. -/
structure FirstColon (s : String) (p : Nat) : Prop where
  idxOf?_eq : s.toList.idxOf? ':' = some p
  one_le : 1 ≤ p
  isSchemeChar : ∀ c ∈ s.toList.take p, IsSchemeChar c
  lt_length : p + 1 < s.length

section

variable {s scheme tail : String}

theorem UriParts.toList_eq (h : UriParts s scheme tail) :
    s.toList = scheme.toList ++ ':' :: tail.toList := by
  rw [h.eq_append, String.toList_append, String.toList_append, List.append_assoc]
  rfl

theorem UriParts.not_mem (h : UriParts s scheme tail) : ':' ∉ scheme.toList := fun hmem =>
  not_isSchemeChar_colon (h.isSchemeChar _ hmem)

theorem uriText_iff : UriText s.toList ↔ ∃ scheme tail, UriParts s scheme tail := by
  constructor
  · rintro ⟨scheme, tail, heq, hscheme, hchars, htail⟩
    refine ⟨.ofList scheme, .ofList tail, ?_, by simpa using hscheme, by simpa using hchars,
      by simpa using htail⟩
    apply String.toList_inj.1
    simp [heq]
  · rintro ⟨scheme, tail, h⟩
    exact ⟨scheme.toList, tail.toList, h.toList_eq, by simpa using h.scheme_ne, h.isSchemeChar,
      by simpa using h.tail_ne⟩

/-- The scheme reaches up to the first colon. -/
theorem UriParts.firstColon (h : UriParts s scheme tail) : FirstColon s scheme.length := by
  have hlength : s.length = scheme.length + (tail.length + 1) := by
    rw [← String.length_toList, h.toList_eq, List.length_append, List.length_cons,
      String.length_toList, String.length_toList]
  have hscheme : scheme.length ≠ 0 := by simpa using h.scheme_ne
  have htail : tail.length ≠ 0 := by simpa using h.tail_ne
  constructor
  · rw [h.toList_eq, idxOf?_append_cons h.not_mem, String.length_toList]
  · omega
  · rw [h.toList_eq, ← String.length_toList, List.take_left]
    exact h.isSchemeChar
  · omega

theorem FirstColon.uriText {p : Nat} (h : FirstColon s p) : UriText s.toList := by
  obtain ⟨behind, heq⟩ := exists_of_idxOf?_eq_some h.idxOf?_eq
  have hp : p ≤ s.toList.length := by
    have := h.lt_length
    rw [String.length_toList]
    omega
  have htake : (s.toList.take p).length = p := List.length_take_of_le hp
  refine ⟨_, behind, heq, ?_, h.isSchemeChar, ?_⟩
  · apply List.ne_nil_of_length_pos
    rw [htake]
    exact h.one_le
  · rintro rfl
    have hlength := congrArg List.length heq
    rw [List.length_append, htake, String.length_toList] at hlength
    exact absurd hlength (Nat.ne_of_gt h.lt_length)

theorem UriParts.unique {scheme' tail' : String} (h : UriParts s scheme tail)
    (h' : UriParts s scheme' tail') : scheme = scheme' ∧ tail = tail' := by
  obtain ⟨hscheme, htail⟩ := append_cons_injective h.not_mem h'.not_mem
    (h.toList_eq.symm.trans h'.toList_eq)
  exact ⟨String.toList_inj.1 hscheme, String.toList_inj.1 htail⟩

end

/-! ## Tests through the shared cells -/

/-- However cells have been used before, the tests answer as the expressions do. -/
theorem answers_run {steps : List Step} (hsteps : ∀ step ∈ steps, step.SparesShared) (v : Value) :
    ((Store.fresh.run steps).2.step (.isUri v)).1 = .ok (.truth (isUri v)) ∧
      ((Store.fresh.run steps).2.step (.isLegacy v)).1 = .ok (.truth (isLegacy v)) := by
  have hsound := (tracks_fresh.run hsteps).1.sound
  rw [← (hsound.isUri v).1, ← (hsound.isLegacy v).1]
  exact ⟨rfl, rfl⟩

/-- **A URI identifier is a scheme, a colon and a tail.** The test finds the texts that are made of
a scheme, a colon and a tail of any characters, neither of which is empty: those whose first colon
has characters of a scheme in front of it, one at least, and something behind it. The parts are
determined by the text. No other value passes the test, and the answer does not depend on earlier
uses of the shared cells. -/
theorem isUri_recognises (s : String) :
    (isUri (.string s) = true ↔ ∃ scheme tail, UriParts s scheme tail) ∧
      (isUri (.string s) = true ↔ ∃ p, FirstColon s p) ∧
      (∀ scheme tail scheme' tail', UriParts s scheme tail → UriParts s scheme' tail' →
        scheme = scheme' ∧ tail = tail') ∧
      (∀ v : Value, v.kind ≠ .string → isUri v = false) ∧
      ∀ steps : List Step, (∀ step ∈ steps, step.SparesShared) → ∀ v,
        ((Store.fresh.run steps).2.step (.isUri v)).1 = .ok (.truth (isUri v)) := by
  have hparts : isUri (.string s) = true ↔ ∃ scheme tail, UriParts s scheme tail :=
    (isUri_iff s).trans uriText_iff
  refine ⟨hparts, ⟨fun h => ?_, fun ⟨p, hp⟩ => (isUri_iff s).2 hp.uriText⟩,
    fun _ _ _ _ h h' => h.unique h', fun v hv => fits_eq_false hv,
    fun steps hsteps v => (answers_run hsteps v).1⟩
  obtain ⟨scheme, tail, h⟩ := hparts.1 h
  exact ⟨_, h.firstColon⟩

/-- A tail may begin with a line feed and hold more colons; the scheme ends at the first one. -/
theorem isUri_recognises_lineFeed :
    isUri (.string "a+b:\n:x") = true ∧
      (∀ scheme tail, UriParts "a+b:\n:x" scheme tail → scheme = "a+b" ∧ tail = "\n:x") ∧
      (Value.bytes [0x61, 0x3a, 0x62]).kind ≠ .string ∧
      isUri (.bytes [0x61, 0x3a, 0x62]) = false ∧
      ((Store.fresh.run [.isUri (.string "a")]).2.step (.isUri (.string "a+b:\n:x"))).1 =
        .ok (.truth true) := by
  have hparts : UriParts "a+b:\n:x" "a+b" "\n:x" :=
    ⟨by decide, by decide, by simp [IsSchemeChar], by decide⟩
  obtain ⟨hiff, -, hunique, hother, hrun⟩ := isUri_recognises "a+b:\n:x"
  have huri := hiff.2 ⟨_, _, hparts⟩
  have hbytes : (Value.bytes [0x61, 0x3a, 0x62]).kind ≠ .string := by decide
  refine ⟨huri, fun _ _ h => hunique _ _ _ _ h hparts, hbytes, hother _ hbytes, ?_⟩
  rw [hrun _ (by simp [Step.SparesShared]), huri]

/-! ## Legacy identifiers -/

theorem toNat_lt_of_isAlphanum {c : Char} (h : c.isAlphanum = true) : c.toNat < 0x80 := by
  simp only [isAlphanum_eq, Bool.or_eq_true, Bool.and_eq_true, decide_eq_true_eq, ge_iff_le,
    UInt32.le_iff_toNat_le, Char.toNat_val, Char.reduceToNat] at h
  omega

/-- The characters of base 58 are the letters and digits of ASCII but for four that look alike. -/
theorem mem_base58Alphabet_iff (c : Char) :
    c ∈ base58Alphabet ↔ c.isAlphanum = true ∧ c ∉ ['0', 'O', 'I', 'l'] := by
  by_cases h : c.toNat < 0x80
  · have hall : ∀ n < 0x80, (Char.ofNat n ∈ base58Alphabet ↔
        (Char.ofNat n).isAlphanum = true ∧ Char.ofNat n ∉ ['0', 'O', 'I', 'l']) := by
      decide +kernel
    have hc := hall c.toNat h
    rwa [Char.ofNat_toNat] at hc
  · have hmem : c ∉ base58Alphabet := fun hmem => h (toNat_lt_of_mem_base58Alphabet hmem)
    exact iff_of_false hmem fun halnum => h (toNat_lt_of_isAlphanum halnum.1)

/-- What may stand behind a legacy identifier so that it is still one: nothing, or behind 21
characters the one that makes them 22. -/
def Completes (s t : String) : Prop :=
  t = "" ∨ s.length = 21 ∧ ∃ c ∈ base58Alphabet, t = String.singleton c

theorem isLegacy_append_iff {s : String} (h : isLegacy (.string s) = true) (t : String) :
    isLegacy (.string (s ++ t)) = true ↔ Completes s t := by
  rw [isLegacy_iff] at h ⊢
  obtain ⟨hlength, hs⟩ := h
  rw [String.length_toList] at hlength
  simp only [LegacyText, String.toList_append, List.length_append, String.length_toList,
    List.mem_append]
  constructor
  · rintro ⟨hsum, hmem⟩
    by_cases ht : t.length = 0
    · exact .inl (by simpa using ht)
    · -- one character is put behind 21
      have hone : t.toList.length = 1 := by
        rw [String.length_toList]
        omega
      obtain ⟨c, hc⟩ := List.length_eq_one_iff.1 hone
      refine .inr ⟨by omega, c, hmem c (.inr (by simp [hc])), ?_⟩
      exact String.toList_inj.1 (by rw [hc, String.toList_singleton])
  · rintro (rfl | ⟨h21, c, hc, rfl⟩)
    · exact ⟨by simpa using hlength, fun c hc => hs c (by simpa using hc)⟩
    · refine ⟨.inr (by simp [h21]), fun d hd => ?_⟩
      rcases hd with hd | hd
      · exact hs d hd
      · rw [String.toList_singleton, List.mem_singleton] at hd
        exact hd ▸ hc

/-- **A legacy identifier is 21 or 22 characters of base 58.** These are 58 letters and digits of
ASCII, so a text with a character beyond ASCII fails the test. So does a legacy identifier with
anything behind it, a line feed for one, unless that is the one character of base 58 that makes 22
of 21. No other value passes the test, and the answer does not depend on earlier uses of the shared
cells. -/
theorem isLegacy_recognises (s : String) :
    (isLegacy (.string s) = true ↔
        (s.length = 21 ∨ s.length = 22) ∧ ∀ c ∈ s.toList, c ∈ base58Alphabet) ∧
      (base58Alphabet.length = 58 ∧ base58Alphabet.Nodup ∧
        ∀ c, c ∈ base58Alphabet ↔ c.isAlphanum = true ∧ c ∉ ['0', 'O', 'I', 'l']) ∧
      (isLegacy (.string s) = true →
        ∀ t, isLegacy (.string (s ++ t)) = true ↔ Completes s t) ∧
      (∀ c ∈ s.toList, 0x80 ≤ c.toNat → isLegacy (.string s) = false) ∧
      (∀ v : Value, v.kind ≠ .string → isLegacy v = false) ∧
      ∀ steps : List Step, (∀ step ∈ steps, step.SparesShared) → ∀ v,
        ((Store.fresh.run steps).2.step (.isLegacy v)).1 = .ok (.truth (isLegacy v)) := by
  have hiff : isLegacy (.string s) = true ↔
      (s.length = 21 ∨ s.length = 22) ∧ ∀ c ∈ s.toList, c ∈ base58Alphabet := by
    rw [isLegacy_iff, LegacyText, String.length_toList]
  refine ⟨hiff, ⟨by decide, by decide, mem_base58Alphabet_iff⟩, isLegacy_append_iff,
    fun c hc hbeyond => ?_, fun v hv => fits_eq_false hv,
    fun steps hsteps v => (answers_run hsteps v).2⟩
  rw [← Bool.not_eq_true, hiff]
  rintro ⟨-, hmem⟩
  exact absurd (toNat_lt_of_mem_base58Alphabet (hmem c hc)) (Nat.not_lt.2 hbeyond)

theorem mem_sampleLegacy : ∀ c ∈ "NcYxiDXkpYi6ov5FcYDi1".toList, c ∈ base58Alphabet := by
  have hall : "NcYxiDXkpYi6ov5FcYDi1".toList.all (· ∈ base58Alphabet) = true := by decide
  simpa only [List.all_eq_true, decide_eq_true_eq] using hall

/-- A line feed behind 21 characters is not overlooked. -/
theorem isLegacy_recognises_lineFeed :
    isLegacy (.string "NcYxiDXkpYi6ov5FcYDi1") = true ∧
      isLegacy (.string ("NcYxiDXkpYi6ov5FcYDi1" ++ "\n")) = false ∧
      (Value.integer 21).kind ≠ .string ∧ isLegacy (.integer 21) = false ∧
      ((Store.fresh.run [.isLegacy (.string "0")]).2.step
        (.isLegacy (.string "NcYxiDXkpYi6ov5FcYDi1"))).1 = .ok (.truth true) := by
  obtain ⟨hiff, -, happend, -, hother, hrun⟩ := isLegacy_recognises "NcYxiDXkpYi6ov5FcYDi1"
  have hlegacy := hiff.2 ⟨.inl (by decide), mem_sampleLegacy⟩
  have hincomplete : ¬ Completes "NcYxiDXkpYi6ov5FcYDi1" "\n" := by
    rintro (h | ⟨-, c, hc, heq⟩)
    · exact absurd h (by decide)
    · have hchar := congrArg String.toList heq
      rw [String.toList_singleton] at hchar
      rw [← (List.cons.inj hchar).1] at hc
      exact absurd hc (by decide)
  have hinteger : (Value.integer 21).kind ≠ .string := by decide
  refine ⟨hlegacy, ?_, hinteger, hother _ hinteger, ?_⟩
  · rw [← Bool.not_eq_true, happend hlegacy]
    exact hincomplete
  · rw [hrun _ (by simp [Step.SparesShared]), hlegacy]

/-- One more character of base 58 behind 21 does no harm. -/
theorem isLegacy_append_one :
    "NcYxiDXkpYi6ov5FcYDi1".length = 21 ∧
      (∀ c ∈ "NcYxiDXkpYi6ov5FcYDi1".toList, c ∈ base58Alphabet) ∧
      isLegacy (.string ("NcYxiDXkpYi6ov5FcYDi1" ++ "1")) = true :=
  ⟨by decide, mem_sampleLegacy, (isLegacy_append_iff ((isLegacy_iff _).2
    ⟨.inl (by decide), mem_sampleLegacy⟩) "1").2 (.inr ⟨by decide, '1', by decide, by decide⟩)⟩

end CredentialCheck.Identifier
