import CredentialCheck.Proofs.Text.Quoting
import CredentialCheck.ValidationError

/-!
# What an error shows of its detail

A validation error that carries a message or none shows it in two ways. The literal tells apart all
details, since quoted texts can be read back and null is not quoted. The text tells apart all
messages, but shows nothing for an empty message and for none.

* `IsMessage` are these details.
* `literal_eq_iff` and `text_eq_iff` are the statements about the two ways, and
  `literal_separates_text` puts them together.
-/

namespace CredentialCheck.ValidationError

/-- A message in words, or none. -/
inductive IsMessage : Value → Prop
  | none : IsMessage .null
  | words (s : String) : IsMessage (.string s)

/-- No message on one side, and the empty one on the other. -/
def MissingAndEmpty (v w : Value) : Prop := v = .null ∧ w = .string ""

variable {a b : ValidationError}

theorem equal_eq_true_iff (ha : IsMessage a.detail) (hb : IsMessage b.detail) :
    a.equal b = true ↔ a.detail = b.detail := by
  obtain ⟨v⟩ := a
  obtain ⟨w⟩ := b
  rw [equal]
  cases ha <;> cases hb <;> simp [Value.equal, Value.kind]

/-! ## The literal -/

/-- Nothing that is quoted looks like the literal of null, which begins with a letter. -/
theorem quoted_ne_literal_null (s : String) : Text.quoted s ≠ Value.null.literal := by
  intro h
  have hhead := Text.head?_quoted s
  rw [h] at hhead
  revert hhead
  decide

theorem literal_injective {v w : Value} (hv : IsMessage v) (hw : IsMessage w)
    (h : v.literal = w.literal) : v = w := by
  cases hv with
  | none =>
    cases hw with
    | none => rfl
    | words t => exact absurd h.symm (quoted_ne_literal_null t)
  | words s =>
    cases hw with
    | none => exact absurd h (quoted_ne_literal_null s)
    | words t => rw [Text.quoted_injective h]

theorem literal_eq_iff (ha : IsMessage a.detail) (hb : IsMessage b.detail) :
    a.literal = b.literal ↔ a.detail = b.detail := by
  constructor
  · intro h
    have hdetail : a.detail.literal = b.detail.literal :=
      (String.append_right_inj _).1 ((String.append_left_inj _).1 h)
    exact literal_injective ha hb hdetail
  · intro h
    obtain ⟨v⟩ := a
    obtain ⟨w⟩ := b
    obtain rfl : v = w := h
    rfl

/-! ## The text -/

/-- A message is shown as it is, and none as nothing. -/
theorem exists_text (ha : IsMessage a.detail) :
    ∃ s, a.text = .ok s ∧ (a.detail = .string s ∨ MissingAndEmpty a.detail (.string s)) := by
  obtain ⟨v⟩ := a
  cases ha with
  | none => exact ⟨"", rfl, .inr ⟨rfl, rfl⟩⟩
  | words s => exact ⟨s, rfl, .inl rfl⟩

/-- The texts are there, and they are the same for equal details and for a missing and an empty
message. -/
theorem text_eq_iff (ha : IsMessage a.detail) (hb : IsMessage b.detail) :
    ∃ s t, a.text = .ok s ∧ b.text = .ok t ∧
      (s = t ↔ a.detail = b.detail ∨ MissingAndEmpty a.detail b.detail ∨
        MissingAndEmpty b.detail a.detail) := by
  obtain ⟨s, hs, hsdetail⟩ := exists_text ha
  obtain ⟨t, ht, htdetail⟩ := exists_text hb
  refine ⟨s, t, hs, ht, ?_⟩
  rcases hsdetail with hsdetail | ⟨hsnull, hsempty⟩ <;>
    rcases htdetail with htdetail | ⟨htnull, htempty⟩
  · simp [MissingAndEmpty, hsdetail, htdetail]
  · obtain rfl : t = "" := Value.string.inj htempty
    simp [MissingAndEmpty, hsdetail, htnull]
  · obtain rfl : s = "" := Value.string.inj hsempty
    simp [MissingAndEmpty, hsnull, htdetail, eq_comm]
  · rw [Value.string.inj hsempty, Value.string.inj htempty, hsnull, htnull]
    simp

/-! ## Both -/

/-- **The literal tells apart what the text does not.** Of two errors with messages or none, the
literals are the same just if the errors are equal. The texts are the same just if the errors are
equal, or one has no message and the other the empty one. -/
theorem literal_separates_text (ha : IsMessage a.detail) (hb : IsMessage b.detail) :
    (a.literal = b.literal ↔ a.equal b = true) ∧
      ∃ s t, a.text = .ok s ∧ b.text = .ok t ∧
        (s = t ↔ a.equal b = true ∨ MissingAndEmpty a.detail b.detail ∨
          MissingAndEmpty b.detail a.detail) := by
  rw [equal_eq_true_iff ha hb]
  exact ⟨literal_eq_iff ha hb, text_eq_iff ha hb⟩

/-- No message and the empty one have the same text and different literals. A message that looks
like an escape is not taken for what the escape stands for, and the word for null not for null. -/
theorem literal_separates_text_empty :
    (IsMessage .null ∧ IsMessage (.string "") ∧ IsMessage (.string "None") ∧
        IsMessage (.string "'\"\\n") ∧ IsMessage (.string "'\"\n")) ∧
      ((⟨.null⟩ : ValidationError).text = (⟨.string ""⟩ : ValidationError).text ∧
        (⟨.null⟩ : ValidationError).literal ≠ (⟨.string ""⟩ : ValidationError).literal) ∧
      (⟨.null⟩ : ValidationError).literal ≠ (⟨.string "None"⟩ : ValidationError).literal ∧
      (⟨.string "'\"\\n"⟩ : ValidationError).literal ≠
        (⟨.string "'\"\n"⟩ : ValidationError).literal := by
  have hne {a b : ValidationError} (ha : IsMessage a.detail) (hb : IsMessage b.detail)
      (h : a.detail ≠ b.detail) : a.literal ≠ b.literal := fun heq =>
    h ((equal_eq_true_iff ha hb).1 ((literal_separates_text ha hb).1.1 heq))
  refine ⟨⟨.none, .words _, .words _, .words _, .words _⟩,
    ⟨?_, hne .none (.words _) nofun⟩, hne .none (.words _) nofun,
    hne (.words _) (.words _) fun h => absurd (Value.string.inj h) (by decide)⟩
  obtain ⟨s, t, hs, ht, hiff⟩ :=
    (literal_separates_text (a := ⟨.null⟩) (b := ⟨.string ""⟩) .none (.words "")).2
  rw [hs, ht, hiff.2 (.inr (.inl ⟨rfl, rfl⟩))]

end CredentialCheck.ValidationError
