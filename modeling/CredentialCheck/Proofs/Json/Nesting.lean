import CredentialCheck.Proofs.Json.Sound

/-!
# Nesting and numbers in the grammar

The grammar of JSON texts without a limit on the digits of numbers. Which numbers there may be, and
what may stand on the innermost level, is left to parameters. With numbers that are short texts, and
nothing on the innermost level, the grammar is that of the texts that are read: there a list or an
object on the deepest level is empty, and a number or a word takes up a level as well.

* `NestedText` and `TextOf` are the grammar.
* `TextOf.imp` compares the texts for different parameters, `TextOf.of_length_le` is the case of
  a short text, whose numbers are short as well.
* `wholeText_of_textOf` and `textOf_of_wholeText` are about the texts that are read.
-/

namespace CredentialCheck.Json.Grammar

/-! ## The grammar -/

/-- A value with `element` for the values directly inside it. If it is a number, its text is one of
those allowed. -/
def ValueTextOf (element : List Char → Value → Prop) (number : List Char → Prop) (s : List Char)
    (v : Value) : Prop :=
  (∃ maxDigits, ValueTextWith element maxDigits s v) ∧
    ∀ maxDigits, NumberText maxDigits s v → number s

/-- A value on a level, with at most `depth` levels of lists and objects in front of the
innermost. -/
def NestedText (innermost : List Char → Value → Prop) (number : List Char → Prop) :
    (depth : Nat) → List Char → Value → Prop
  | 0 => innermost
  | depth + 1 => ValueTextOf (NestedText innermost number depth) number

/-- A whole text: a value between white space. -/
inductive TextOf (innermost : List Char → Value → Prop) (number : List Char → Prop) :
    List Char → Value → Prop
  | mk {a s b : List Char} {v : Value} (ha : Blank a)
    (hv : NestedText innermost number Limits.document.depth s v) (hb : Blank b) :
    TextOf innermost number (a ++ s ++ b) v

/-- Nothing at all. -/
def nothing : List Char → Value → Prop := fun _ _ => False

/-- A value that is neither a list nor an object. -/
def ScalarText (number : List Char → Prop) (s : List Char) (v : Value) : Prop :=
  ValueTextOf nothing number s v ∧ v.kind ≠ .list ∧ v.kind ≠ .dict

/-! ## Parts -/

section

variable {element element' : List Char → Value → Prop} {s : List Char}

theorem ElementsText.imp {vs : List Value} (h : ElementsText element s vs)
    (himp : ∀ t v, t.length ≤ s.length → element t v → element' t v) :
    ElementsText element' s vs := by
  induction h with
  | last ha hv hb => exact .last ha (himp _ _ (by simp; omega) hv) hb
  | more ha hv hb ht ih =>
    refine .more ha (himp _ _ (by simp; omega) hv) hb (ih fun t v hlength => himp t v ?_)
    simp
    omega

theorem EntryText.imp {e : Value × Value} (h : EntryText element s e)
    (himp : ∀ t v, t.length ≤ s.length → element t v → element' t v) : EntryText element' s e := by
  cases h with
  | mk hk ha hb hv => exact .mk hk ha hb (himp _ _ (by simp; omega) hv)

theorem EntriesText.imp {es : List (Value × Value)} (h : EntriesText element s es)
    (himp : ∀ t v, t.length ≤ s.length → element t v → element' t v) :
    EntriesText element' s es := by
  induction h with
  | last ha he hb => exact .last ha (he.imp fun t v hlength => himp t v (by simp; omega)) hb
  | more ha he hb ht ih =>
    refine .more ha (he.imp fun t v hlength => himp t v ?_) hb (ih fun t v hlength => himp t v ?_)
    · simp
      omega
    · simp
      omega

/-- A value with other parts, none of which is longer, and with other numbers. -/
theorem ValueTextWith.imp {m n : Nat} {v : Value} (h : ValueTextWith element m s v)
    (himp : ∀ t v, t.length ≤ s.length → element t v → element' t v)
    (hnumber : NumberText m s v → NumberText n s v) : ValueTextWith element' n s v := by
  cases h with
  | null => exact .null
  | true => exact .true
  | false => exact .false
  | nan => exact .nan
  | infinity => exact .infinity
  | negativeInfinity => exact .negativeInfinity
  | number h => exact .number (hnumber h)
  | string h => exact .string h
  | emptyList ha => exact .emptyList ha
  | list h => exact .list (h.imp fun t v hlength => himp t v (by simp; omega))
  | emptyObject ha => exact .emptyObject ha
  | object h => exact .object (h.imp fun t v hlength => himp t v (by simp; omega))

end

/-! ## Other parameters -/

section

variable {innermost innermost' : List Char → Value → Prop} {number number' : List Char → Prop}
  {n : Nat} {s : List Char} {v : Value}

theorem NestedText.imp {depth : Nat} (h : NestedText innermost number depth s v)
    (hlength : s.length ≤ n) (hinnermost : ∀ t v, innermost t v → innermost' t v)
    (hnumber : ∀ t, t.length ≤ n → number t → number' t) :
    NestedText innermost' number' depth s v := by
  induction depth generalizing s v with
  | zero => exact hinnermost s v h
  | succ depth ih =>
    obtain ⟨⟨maxDigits, hvalue⟩, hs⟩ := h
    refine ⟨⟨maxDigits, hvalue.imp (fun t v ht hnested => ?_) id⟩, fun m hm => ?_⟩
    · exact ih hnested (Nat.le_trans ht hlength)
    · exact hnumber s hlength (hs m hm)

/-- In a short text all numbers are short. -/
theorem TextOf.of_length_le (h : TextOf innermost (fun _ => True) s v) (hlength : s.length ≤ n) :
    TextOf innermost (·.length ≤ n) s v := by
  obtain @⟨a, s, b, v, ha, hv, hb⟩ := h
  simp only [List.length_append] at hlength
  refine .mk ha (hv.imp (n := n) (by omega) (fun _ _ => id) fun t ht _ => ht) hb

/-! ## Texts that are read -/

/-- A number that is a short text has no more digits. -/
theorem NumberText.of_length_le {maxDigits : Nat} (h : NumberText maxDigits s v)
    (hlength : s.length ≤ n) : NumberText n s v := by
  cases h with
  | unsigned hw _ hf hx => exact .unsigned hw (by simp at hlength; omega) hf hx
  | signed hw _ hf hx => exact .signed hw (by simp at hlength; omega) hf hx

theorem valueText_of_nestedText {depth : Nat}
    (h : NestedText nothing (·.length ≤ n) depth s v) : ValueText n depth s v := by
  induction depth generalizing s v with
  | zero => exact h
  | succ depth ih =>
    obtain ⟨⟨maxDigits, hvalue⟩, hs⟩ := h
    exact hvalue.imp (fun t v _ hnested => ih hnested) fun hnumber =>
      hnumber.of_length_le (hs maxDigits hnumber)

theorem nestedText_of_valueText {depth : Nat} (h : ValueText n depth s v) :
    NestedText nothing (fun _ => True) depth s v := by
  induction depth generalizing s v with
  | zero => exact h
  | succ depth ih =>
    exact ⟨⟨n, ValueTextWith.imp h (fun t v _ hvalue => ih hvalue) id⟩, fun _ _ => trivial⟩

/-- With short numbers, the texts of the grammar are read. -/
theorem wholeText_of_textOf
    (h : TextOf nothing (·.length ≤ Limits.document.digits) s v) : WholeText .document s v := by
  obtain @⟨a, s, b, v, ha, hv, hb⟩ := h
  exact .mk ha (valueText_of_nestedText hv) hb

/-- What is read is a text of the grammar. -/
theorem textOf_of_wholeText (h : WholeText .document s v) : TextOf nothing (fun _ => True) s v := by
  obtain @⟨a, s, b, v, ha, hv, hb⟩ := h
  exact .mk ha (nestedText_of_valueText hv) hb

end

end CredentialCheck.Json.Grammar
