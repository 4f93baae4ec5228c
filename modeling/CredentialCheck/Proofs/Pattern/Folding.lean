import CredentialCheck.Pattern.Expression

/-!
# Letters in either case

Beyond ASCII there are four letters that count as letters of ASCII when case is ignored. Any other
character beyond ASCII has itself as its only variant, so a test treats it alike whether case is
ignored or not.

* `foldingLetters` are the four.
* `CharTest.admits_ignoreCase` is the statement about the others.
-/

namespace CredentialCheck.Pattern

/-- The letters beyond ASCII that are variants of letters of ASCII: the letters i with and without a
dot, the long s, and the Kelvin sign. -/
def foldingLetters : List Char :=
  [Char.ofNat 0x130, Char.ofNat 0x131, Char.ofNat 0x17F, Char.ofNat 0x212A]

variable {c : Char}

/-- A character beyond ASCII is no character of ASCII. -/
theorem ne_of_toNat_lt {d : Char} (hc : 0x80 ≤ c.toNat) (hd : d.toNat < 0x80) : c ≠ d := by
  rintro rfl
  exact Nat.not_lt.2 hc hd

theorem foldCase_of_not_mem (hc : 0x80 ≤ c.toNat) (hnot : c ∉ foldingLetters) :
    foldCase c = c := by
  simp only [foldingLetters, List.mem_cons, List.not_mem_nil, or_false, not_or] at hnot
  have hupper : ¬ ('A' ≤ c ∧ c ≤ 'Z') := fun h => by
    have hle : c.toNat ≤ 'Z'.toNat := h.2
    exact Nat.not_lt.2 hc (Nat.lt_of_le_of_lt hle (by decide))
  unfold foldCase
  rw [if_neg hupper, if_neg (not_or.2 ⟨hnot.1, hnot.2.1⟩), if_neg hnot.2.2.1, if_neg hnot.2.2.2]

theorem caseVariants_of_not_mem (hc : 0x80 ≤ c.toNat) (hnot : c ∉ foldingLetters) :
    caseVariants c = [c] := by
  have hlower : ¬ ('a' ≤ c ∧ c ≤ 'z') := fun h => by
    have hle : c.toNat ≤ 'z'.toNat := h.2
    exact Nat.not_lt.2 hc (Nat.lt_of_le_of_lt hle (by decide))
  have hne (d : Char) (hd : d.toNat < 0x80) : c ≠ d := ne_of_toNat_lt hc hd
  simp only [caseVariants, foldCase_of_not_mem hc hnot]
  rw [if_neg hlower, if_neg (hne 'i' (by decide)), if_neg (hne 's' (by decide)),
    if_neg (hne 'k' (by decide))]
  rfl

theorem CharTest.admits_beyond (hc : 0x80 ≤ c.toNat) (hnot : c ∉ foldingLetters)
    (test : CharTest) (dotAll : Bool) :
    test.admits ⟨true, dotAll⟩ c = test.admits ⟨false, dotAll⟩ c := by
  have hitem (item : SetItem) :
      item.admits ⟨true, dotAll⟩ c = item.admits ⟨false, dotAll⟩ c := by
    simp only [SetItem.admits, if_true, Bool.false_eq_true, if_false,
      caseVariants_of_not_mem hc hnot, List.any_cons, List.any_nil, Bool.or_false]
  cases test <;> simp only [CharTest.admits, hitem]

/-- **Only the four letters can make a difference** to a test to which the case of ASCII makes
none. -/
theorem CharTest.admits_ignoreCase {test : CharTest} {dotAll : Bool}
    (hascii : ∀ n < 0x80, test.admits ⟨true, dotAll⟩ (Char.ofNat n) =
      test.admits ⟨false, dotAll⟩ (Char.ofNat n)) (hnot : c ∉ foldingLetters) :
    test.admits ⟨true, dotAll⟩ c = test.admits ⟨false, dotAll⟩ c := by
  by_cases hc : c.toNat < 0x80
  · have h := hascii c.toNat hc
    rwa [Char.ofNat_toNat] at h
  · exact CharTest.admits_beyond (Nat.not_lt.1 hc) hnot test dotAll

end CredentialCheck.Pattern
