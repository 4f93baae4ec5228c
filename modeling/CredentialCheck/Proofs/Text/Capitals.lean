import CredentialCheck.Proofs.Text.Decoding
import CredentialCheck.Text.Blank
import CredentialCheck.Text.UpperCase
import Mathlib.Data.List.Forall2
import Mathlib.Data.List.Infix
import Mathlib.Data.List.TakeWhile

/-!
# Capitals of ASCII

Which texts become a given word of ASCII capitals when they are put in capitals. A letter does if it
is the capital or its small letter; beyond that only the dotless i becomes an I and the long s an S.
A character whose capital form is longer takes up more than one letter of the word, so it matters
only for words that hold such a form. The white space around a text is a run at each end.

* `upperCase_eq_singleton_iff` and `toUpper_eq_iff` are the statements about characters and texts.
* `toUpper_map_toLower`: the case of ASCII letters makes no difference.
* `trim_enclosed` and `trim_map_toLower` are about trimming.
-/

namespace CredentialCheck.Text

/-! ## The table of capital forms -/

/-- The forms of a character: a longer one, the one of its run, or the character itself. -/
theorem upperCase_cases (c : Char) :
    (∃ e ∈ upperCaseExpansions, upperCase c = e.2.map Char.ofNat) ∨
      (∃ r ∈ upperCaseRuns, r.first ≤ c.toNat ∧ c.toNat ≤ r.last ∧
        upperCase c = [Char.ofNat ((c.toNat : Int) + r.shift).toNat]) ∨ upperCase c = [c] := by
  unfold upperCase
  split
  · next n form h => exact .inl ⟨_, List.mem_of_find?_eq_some h, rfl⟩
  split
  · next r h =>
    have hholds := List.find?_some h
    simp only [CaseRun.holds, Bool.and_eq_true, decide_eq_true_eq] at hholds
    exact .inr (.inl ⟨r, List.mem_of_find?_eq_some h, hholds.1.1, hholds.1.2, rfl⟩)
  · exact .inr (.inr rfl)

theorem two_le_length_of_mem_expansions : ∀ e ∈ upperCaseExpansions, 2 ≤ e.2.length := by
  decide +kernel

/-- The runs that lead to capitals of ASCII: its small letters, the dotless i and the long s. -/
theorem run_cases : ∀ r ∈ upperCaseRuns, (r.last : Int) + r.shift < 0x41 ∨
    0x5A < (r.first : Int) + r.shift ∨ (r.first = 0x61 ∧ r.last = 0x7A ∧ r.shift = -32) ∨
    (r.first = 0x131 ∧ r.last = 0x131 ∧ r.shift = -232) ∨
    (r.first = 0x17F ∧ r.last = 0x17F ∧ r.shift = -300) := by
  decide +kernel

/-! ## Letters of ASCII -/

/-- A capital letter of ASCII. -/
def IsCapital (d : Char) : Prop := 0x41 ≤ d.toNat ∧ d.toNat ≤ 0x5A

instance : DecidablePred IsCapital := fun _ => inferInstanceAs (Decidable (_ ∧ _))

/-- What holds of the 26 code points holds of the capitals. -/
theorem IsCapital.of_forall {P : Char → Prop} {d : Char} (hd : IsCapital d)
    (h : ∀ n ≤ 0x5A, 0x41 ≤ n → P (Char.ofNat n)) : P d :=
  Char.ofNat_toNat d ▸ h d.toNat hd.2 hd.1

theorem toNat_toLower {d : Char} (hd : IsCapital d) : d.toLower.toNat = d.toNat + 32 :=
  hd.of_forall (P := fun d => d.toLower.toNat = d.toNat + 32) (by decide)

theorem upperCase_of_isCapital {d : Char} (hd : IsCapital d) :
    upperCase d = [d] ∧ upperCase d.toLower = [d] :=
  hd.of_forall (P := fun d => upperCase d = [d] ∧ upperCase d.toLower = [d]) (by decide +kernel)

theorem isBlank_of_isCapital {d : Char} (hd : IsCapital d) :
    isBlank d = false ∧ isBlank d.toLower = false :=
  hd.of_forall (P := fun d => isBlank d = false ∧ isBlank d.toLower = false) (by decide)

theorem toLower_of_not_isCapital {c : Char} (hc : ¬ IsCapital c) : c.toLower = c := by
  unfold Char.toLower
  rw [dif_neg]
  exact fun h => hc ⟨UInt32.le_iff_toNat_le.1 h.1, UInt32.le_iff_toNat_le.1 h.2⟩

/-- The case of ASCII letters matters neither for the capital form nor for white space. -/
theorem toLower_alike (c : Char) :
    upperCase c.toLower = upperCase c ∧ isBlank c.toLower = isBlank c := by
  by_cases hc : IsCapital c
  · obtain ⟨hcapital, hsmall⟩ := upperCase_of_isCapital hc
    obtain ⟨hblank, hsmallBlank⟩ := isBlank_of_isCapital hc
    exact ⟨hsmall.trans hcapital.symm, hsmallBlank.trans hblank.symm⟩
  · rw [toLower_of_not_isCapital hc]
    exact ⟨rfl, rfl⟩

/-! ## Characters -/

/-- What is spelled with a capital letter: the letter in either case, and where it is an I the i
without a dot. -/
def Spells (c d : Char) : Prop := c = d ∨ c = d.toLower ∨ d = 'I' ∧ c = Char.ofNat 0x131

instance (c d : Char) : Decidable (Spells c d) := inferInstanceAs (Decidable (_ ∨ _ ∨ _))

/-- A character other than the first one gives away its code point. -/
theorem eq_toNat_of_ofNat_eq {n : Nat} {d : Char} (h : Char.ofNat n = d) (hd : d.toNat ≠ 0) :
    n = d.toNat := by
  by_cases hvalid : n < 0xD800 ∨ 0xDFFF < n ∧ n < 0x110000
  · rw [← h, Utf8.toNat_ofNat_of_valid hvalid]
  · rw [Char.ofNat, dif_neg hvalid] at h
    exact absurd (h ▸ rfl) hd

/-- **The characters with a given capital of ASCII.** -/
theorem upperCase_eq_singleton_iff {c d : Char} (hd : IsCapital d) :
    upperCase c = [d] ↔ Spells c d ∨ d = 'S' ∧ c = Char.ofNat 0x17F := by
  constructor
  · intro h
    rcases upperCase_cases c with ⟨e, he, hform⟩ | ⟨r, hr, hfirst, hlast, hform⟩ | hform
    · have hlength := congrArg List.length (hform.symm.trans h)
      rw [List.length_map, List.length_singleton] at hlength
      exact absurd (two_le_length_of_mem_expansions e he) (by omega)
    · obtain ⟨hlow, hhigh⟩ := hd
      -- the shifted code point is that of the capital
      have hshift : ((c.toNat : Int) + r.shift).toNat = d.toNat :=
        eq_toNat_of_ofNat_eq (List.singleton_inj.1 (hform.symm.trans h)) (by omega)
      have hchar {n : Nat} {x : Char} (hx : x.toNat = n) : x = Char.ofNat n :=
        hx ▸ (Char.ofNat_toNat x).symm
      rcases run_cases r hr with h | h | ⟨-, -, hs⟩ | ⟨hf, hl, hs⟩ | ⟨hf, hl, hs⟩
      · omega
      · omega
      · refine .inl (.inr (.inl (Char.toNat_inj.1 ?_)))
        rw [toNat_toLower ⟨hlow, hhigh⟩]
        omega
      · exact .inl (.inr (.inr ⟨hchar (n := 0x49) (by omega), hchar (by omega)⟩))
      · exact .inr ⟨hchar (n := 0x53) (by omega), hchar (by omega)⟩
    · exact .inl (.inl (List.singleton_inj.1 (hform.symm.trans h)))
  · rintro ((rfl | rfl | ⟨rfl, rfl⟩) | ⟨rfl, rfl⟩)
    · exact (upperCase_of_isCapital hd).1
    · exact (upperCase_of_isCapital hd).2
    · decide +kernel
    · decide +kernel

/-! ## Texts -/

/-- A word of ASCII capitals that has no S, which may come from a long s, and in which no capital
form of several characters occurs. -/
structure IsPlainWord (word : List Char) : Prop where
  isCapital : ∀ d ∈ word, IsCapital d
  noS : 'S' ∉ word
  noExpansion : ∀ e ∈ upperCaseExpansions, ¬ e.2.map Char.ofNat <:+: word

theorem IsPlainWord.tail {d : Char} {word : List Char} (h : IsPlainWord (d :: word)) :
    IsPlainWord word :=
  ⟨fun x hx => h.isCapital x (List.mem_cons_of_mem d hx),
    fun hs => h.noS (List.mem_cons_of_mem d hs),
    fun e he hform => h.noExpansion e he (hform.trans (List.suffix_cons d word).isInfix)⟩

/-- In front of a plain word stands one character, if the rest of it is what comes behind. -/
theorem IsPlainWord.upperCase_append_eq_iff {c d : Char} {rest word : List Char}
    (h : IsPlainWord (d :: word)) : upperCase c ++ rest = d :: word ↔ Spells c d ∧ rest = word := by
  have hsingle : upperCase c = [d] ↔ Spells c d := by
    rw [upperCase_eq_singleton_iff (h.isCapital d List.mem_cons_self), or_iff_left]
    rintro ⟨rfl, -⟩
    exact h.noS List.mem_cons_self
  constructor
  · intro heq
    have hone : ∃ x, upperCase c = [x] := by
      rcases upperCase_cases c with ⟨e, he, hform⟩ | ⟨r, -, -, -, hform⟩ | hform
      · refine absurd ?_ (h.noExpansion e he)
        rw [← hform, ← heq]
        exact (List.prefix_append _ _).isInfix
      · exact ⟨_, hform⟩
      · exact ⟨_, hform⟩
    obtain ⟨x, hx⟩ := hone
    rw [hx, List.singleton_append, List.cons.injEq] at heq
    exact ⟨hsingle.1 (heq.1 ▸ hx), heq.2⟩
  · rintro ⟨hc, rfl⟩
    rw [hsingle.2 hc, List.singleton_append]

theorem upperCase_ne_nil (c : Char) : upperCase c ≠ [] := by
  intro hnil
  rcases upperCase_cases c with ⟨e, he, hform⟩ | ⟨r, -, -, -, hform⟩ | hform
  · have hlength := two_le_length_of_mem_expansions e he
    rw [hnil, eq_comm, List.map_eq_nil_iff] at hform
    rw [hform] at hlength
    exact absurd hlength (by decide)
  · exact List.cons_ne_nil _ _ (hform.symm.trans hnil)
  · exact List.cons_ne_nil _ _ (hform.symm.trans hnil)

/-- **The texts that become a given word.** -/
theorem toUpper_eq_iff {s word : List Char} (hword : IsPlainWord word) :
    toUpper s = word ↔ List.Forall₂ Spells s word := by
  induction s generalizing word with
  | nil => rw [List.forall₂_nil_left_iff, toUpper, List.flatMap_nil, eq_comm]
  | cons c s ih =>
    rw [toUpper, List.flatMap_cons, ← toUpper]
    cases word with
    | nil =>
      rw [List.forall₂_nil_right_iff, List.append_eq_nil_iff]
      exact iff_of_false (fun h => upperCase_ne_nil c h.1) (List.cons_ne_nil c s)
    | cons d word => rw [hword.upperCase_append_eq_iff, ih hword.tail, List.forall₂_cons]

theorem toUpper_map_toLower (s : List Char) : toUpper (s.map Char.toLower) = toUpper s := by
  unfold toUpper
  rw [List.flatMap_map]
  exact congrArg (List.flatMap · s) (funext fun c => (toLower_alike c).1)

/-! ## White space at the ends -/

theorem trim_map_toLower (s : List Char) :
    trim (s.map Char.toLower) = (trim s).map Char.toLower := by
  have hblank : isBlank ∘ Char.toLower = isBlank := funext fun c => (toLower_alike c).2
  simp only [trim, List.dropWhile_map, hblank, ← List.map_reverse]

/-- **White space around a text** is taken away, whatever there is already. -/
theorem trim_enclosed {before s behind : List Char} (hbefore : ∀ c ∈ before, isBlank c = true)
    (hbehind : ∀ c ∈ behind, isBlank c = true) : trim (before ++ s ++ behind) = trim s := by
  unfold trim
  rw [List.append_assoc, List.dropWhile_append_of_pos hbefore, List.dropWhile_append]
  split
  · next hnil =>
    rw [List.isEmpty_iff.1 hnil, List.dropWhile_eq_nil_iff.2 hbehind]
  · rw [List.reverse_append, List.dropWhile_append_of_pos]
    exact fun c hc => hbehind c (List.mem_reverse.1 hc)

end CredentialCheck.Text
