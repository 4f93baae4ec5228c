import CredentialCheck.Proofs.Json.Sound
import CredentialCheck.Proofs.Text.LineEnding

/-!
# Line endings in JSON texts

How the lines of a JSON text end makes no difference to what it spells. Inside a string no line can
end, since a control character has to be escaped there; a word and a number stand on one line; and
everywhere else a line ending is white space, whichever it is.

* `Steady` is what a relation between texts and values needs for this, and what it hands on to the
  relation one level up.
* `read_unifyLineEndings` is the statement about reading.
-/

namespace CredentialCheck.Json

open Text Grammar

variable {s t : List Char}

/-! ## Parts on one line -/

theorem not_endsLine_of_le {c : Char} (h : 0x20 ≤ c.toNat) : ¬ EndsLine c := by
  rintro (rfl | rfl) <;> exact absurd h (by decide)

theorem Grammar.Digits.oneLine (h : Digits s) : OneLine s := fun c hc =>
  not_endsLine_of_le (by have := isDigit_char (h.2 c hc); omega)

theorem Grammar.Fraction.oneLine {places : Option (List Char)} (h : Fraction s places) :
    OneLine s := by
  cases h with
  | absent => exact oneLine_nil
  | present h => exact h.oneLine.cons (by decide)

theorem Grammar.Exponent.oneLine {exponent : Option Int} (h : Exponent s exponent) :
    OneLine s := by
  have hmark {mark : Char} (hm : mark ∈ ['e', 'E']) : ¬ EndsLine mark := by
    simp only [List.mem_cons, List.not_mem_nil, or_false] at hm
    rcases hm with rfl | rfl <;> decide
  cases h with
  | absent => exact oneLine_nil
  | plain hm h => exact h.oneLine.cons (hmark hm)
  | plus hm h => exact (h.oneLine.cons (by decide)).cons (hmark hm)
  | minus hm h => exact (h.oneLine.cons (by decide)).cons (hmark hm)

/-- A number stands on one line. -/
theorem Grammar.NumberText.solid {maxDigits : Nat} {v : Value} (h : NumberText maxDigits s v) :
    OneLine s ∧ s ≠ [] := by
  cases h with
  | unsigned hw _ hf hx =>
    exact ⟨(hw.1.oneLine.append hf.oneLine).append hx.oneLine, by simp [hw.1.1]⟩
  | signed hw _ hf hx =>
    exact ⟨((hw.1.oneLine.append hf.oneLine).append hx.oneLine).cons (by decide), by simp⟩

theorem Grammar.Hex4.oneLine {n : Nat} (h : Hex4 s n) : OneLine s := by
  have hdigit {c : Char} {d : Nat} (hd : hexValue? c = some d) : ¬ EndsLine c := by
    rintro (rfl | rfl) <;> cases hd
  obtain ⟨ha, hb, hc, hd⟩ := h
  exact (((oneLine_nil.cons (hdigit hd)).cons (hdigit hc)).cons (hdigit hb)).cons (hdigit ha)

/-- So does a character of a string. -/
theorem Grammar.CharText.oneLine {c : Char} (h : CharText s c) : OneLine s := by
  have hbackslash : ¬ EndsLine '\\' := by decide
  have hu : ¬ EndsLine 'u' := by decide
  cases h with
  | plain hcontrol _ _ => exact oneLine_nil.cons (not_endsLine_of_le hcontrol)
  | @short letter _ h =>
    have hletter : ¬ EndsLine letter := by rintro (rfl | rfl) <;> cases h
    exact (oneLine_nil.cons hletter).cons hbackslash
  | numbered h _ _ => exact (h.oneLine.cons hu).cons hbackslash
  | pair hs ht _ _ =>
    exact ((hs.oneLine.cons hu).cons hbackslash).append ((ht.oneLine.cons hu).cons hbackslash)

theorem Grammar.StringText.oneLine {cs : List Char} (h : StringText s cs) : OneLine s := by
  induction h with
  | nil => exact oneLine_nil
  | cons hc _ ih => exact hc.oneLine.append ih

/-! ## Parts on several lines -/

/-- White space with other line endings is white space. -/
theorem Grammar.Blank.sameLines (hs : Blank s) (h : SameLines s t) : Blank t := by
  intro c hc
  rcases h.mem_or c hc with hmem | rfl | rfl
  · exact hs c hmem
  · decide
  · decide

/-- A relation between texts that begin and end inside a line, and values, that does not depend on
the line endings. -/
structure Steady {α : Type} (element : List Char → α → Prop) : Prop where
  solid : ∀ {s v}, element s v → Solid s
  sameLines : ∀ {s t v}, element s v → SameLines s t → element t v

section

variable {element : List Char → Value → Prop} (helement : Steady element)

include helement

theorem Grammar.ElementsText.sameLines {vs : List Value} (hs : ElementsText element s vs)
    (h : SameLines s t) : ElementsText element t vs := by
  induction hs generalizing t with
  | last ha hv hb =>
    obtain ⟨a', s', b', rfl, ha', hs', hb'⟩ := h.exists_around (helement.solid hv)
    exact .last (ha.sameLines ha') (helement.sameLines hv hs') (hb.sameLines hb')
  | more ha hv hb _ ih =>
    obtain ⟨x, t', rfl, hx, ht'⟩ := h.exists_append_cons (by decide)
    obtain ⟨a', s', b', rfl, ha', hs', hb'⟩ := hx.exists_around (helement.solid hv)
    exact .more (ha.sameLines ha') (helement.sameLines hv hs') (hb.sameLines hb') (ih ht')

theorem steady_entryText : Steady (EntryText element) where
  solid := by
    rintro s e ⟨hk, ha, hb, hv⟩
    obtain ⟨front, c, rfl, hc⟩ := (helement.solid hv).ends
    exact ⟨⟨'"', _, rfl, by decide⟩, ⟨_, c, (List.append_assoc ..).symm, hc⟩⟩
  sameLines := by
    rintro s t e ⟨hk, ha, hb, hv⟩ h
    rw [← List.append_nil (_ ++ _)] at h
    obtain ⟨x, s', y, rfl, hx, hs', hy⟩ := h.exists_around (helement.solid hv)
    obtain ⟨x, b', rfl, hx, hb'⟩ := hx.exists_append_cons (by decide)
    obtain ⟨x, a', rfl, hx, ha'⟩ := hx.exists_append_cons (by decide)
    obtain ⟨k', rfl, hk'⟩ := hx.exists_cons (by decide)
    rw [oneLine_nil.eq_of_sameLines hy, List.append_nil, hk.oneLine.eq_of_sameLines hk']
    exact .mk hk (ha.sameLines ha') (hb.sameLines hb') (helement.sameLines hv hs')

theorem Grammar.EntriesText.sameLines {es : List (Value × Value)}
    (hs : EntriesText element s es) (h : SameLines s t) : EntriesText element t es := by
  have hentry := steady_entryText helement
  induction hs generalizing t with
  | last ha he hb =>
    obtain ⟨a', s', b', rfl, ha', hs', hb'⟩ := h.exists_around (hentry.solid he)
    exact .last (ha.sameLines ha') (hentry.sameLines he hs') (hb.sameLines hb')
  | more ha he hb _ ih =>
    obtain ⟨x, t', rfl, hx, ht'⟩ := h.exists_append_cons (by decide)
    obtain ⟨a', s', b', rfl, ha', hs', hb'⟩ := hx.exists_around (hentry.solid he)
    exact .more (ha.sameLines ha') (hentry.sameLines he hs') (hb.sameLines hb') (ih ht')

/-- A value stands on one line, or is enclosed in brackets. -/
theorem steady_valueTextWith (maxDigits : Nat) : Steady (ValueTextWith element maxDigits) where
  solid := by
    intro s v h
    cases h with
    | null | true | false | nan | infinity | negativeInfinity =>
      exact OneLine.solid (by decide) (by decide)
    | number h => exact h.solid.1.solid h.solid.2
    | string _ | emptyList _ | list _ | emptyObject _ | object _ =>
      exact solid_enclosed (by decide) (by decide) _
  sameLines := by
    intro s t v hs h
    cases hs with
    | null =>
      obtain rfl := OneLine.eq_of_sameLines (by decide) h
      exact .null
    | true =>
      obtain rfl := OneLine.eq_of_sameLines (by decide) h
      exact .true
    | false =>
      obtain rfl := OneLine.eq_of_sameLines (by decide) h
      exact .false
    | nan =>
      obtain rfl := OneLine.eq_of_sameLines (by decide) h
      exact .nan
    | infinity =>
      obtain rfl := OneLine.eq_of_sameLines (by decide) h
      exact .infinity
    | negativeInfinity =>
      obtain rfl := OneLine.eq_of_sameLines (by decide) h
      exact .negativeInfinity
    | number hs =>
      obtain rfl := hs.solid.1.eq_of_sameLines h
      exact .number hs
    | string hs =>
      obtain ⟨s', rfl, hinside⟩ := h.exists_enclosed (by decide) (by decide)
      obtain rfl := hs.oneLine.eq_of_sameLines hinside
      exact .string hs
    | emptyList ha =>
      obtain ⟨a', rfl, hinside⟩ := h.exists_enclosed (by decide) (by decide)
      exact .emptyList (ha.sameLines hinside)
    | list hs =>
      obtain ⟨s', rfl, hinside⟩ := h.exists_enclosed (by decide) (by decide)
      exact .list (hs.sameLines helement hinside)
    | emptyObject ha =>
      obtain ⟨a', rfl, hinside⟩ := h.exists_enclosed (by decide) (by decide)
      exact .emptyObject (ha.sameLines hinside)
    | object hs =>
      obtain ⟨s', rfl, hinside⟩ := h.exists_enclosed (by decide) (by decide)
      exact .object (hs.sameLines helement hinside)

end

theorem steady_valueText (maxDigits depth : Nat) : Steady (ValueText maxDigits depth) := by
  induction depth with
  | zero => exact ⟨fun h => h.elim, fun h => h.elim⟩
  | succ depth ih => exact steady_valueTextWith ih maxDigits

/-! ## Whole texts -/

variable {limits : Limits}

theorem Grammar.WholeText.sameLines {v : Value} (hs : WholeText limits s v) (h : SameLines s t) :
    WholeText limits t v := by
  have hsteady := steady_valueText limits.digits limits.depth
  obtain ⟨ha, hv, hb⟩ := hs
  obtain ⟨a', s', b', rfl, ha', hs', hb'⟩ := h.exists_around (hsteady.solid hv)
  exact .mk (ha.sameLines ha') (hsteady.sameLines hv hs') (hb.sameLines hb')

/-- **Unifying the line endings makes no difference to what a text is read as**, nor to whether it
is read at all. -/
theorem read_unifyLineEndings (hlimits : 0 < limits.digits) (s : List Char) (v : Value) :
    read limits (Utf8.encode (unifyLineEndings s)) = .ok v ↔
      read limits (Utf8.encode s) = .ok v := by
  have hlines := sameLines_unifyLineEndings s
  rw [read_encode_eq_ok_iff hlimits, read_encode_eq_ok_iff hlimits]
  exact ⟨fun h => h.sameLines hlines.symm, fun h => h.sameLines hlines⟩

end CredentialCheck.Json
