import CredentialCheck.Document.Load
import CredentialCheck.Proofs.Template.Trailing

/-!
# The verdict on a document in words

The fields of a document that has been read are texts, and a list of texts, so its verdict is never
a misuse: it is the message about the first rule that is broken, or no error.

* `Document.complaint?` is that message, and `Document.verdict_eq` says that the verdict is it.
* `Document.complaint?_ne_empty`: no message is empty.
* `Schema.complaint?_eq_none_iff` and `CredentialDefinition.complaint?_eq_none_iff`: which documents
  are left alone.
-/

namespace CredentialCheck

open Document

/-! ## Messages -/

/-- The message about the first rule that a schema breaks. -/
def Schema.complaint? (s : Schema) : Option String :=
  if Identifier.isIdentifier (.string s.issuerId) = false then
    some ("Invalid issuer id: " ++ s.issuerId)
  else if s.attrNames = [] then some "Schema must declare at least one attribute"
  else if ¬ s.attrNames.Nodup then some ("Duplicate attribute names in schema " ++ s.name)
  else none

/-- The message about the first rule that a credential definition breaks. -/
def CredentialDefinition.complaint? (c : CredentialDefinition) : Option String :=
  if Identifier.isIdentifier (.string c.schemaId) = false then
    some ("Invalid schema id: " ++ c.schemaId)
  else if Identifier.isIdentifier (.string c.issuerId) = false then
    some ("Invalid issuer id: " ++ c.issuerId)
  else if c.type ≠ signatureType then some ("Unsupported signature type: " ++ c.type)
  else none

/-- The message about the first rule that a document breaks. -/
def Document.complaint? : Document → Option String
  | .schema s => s.complaint?
  | .credentialDefinition c => c.complaint?

/-! ## Rejections -/

/-- A message that ends in the value it is about. -/
theorem Verdict.reject_trailing {template text : String}
    (htemplate : template.toList = text.toList ++ ['{', '}'])
    (h : text.toList.all (fun c => c ≠ '{' ∧ c ≠ '}') = true) {v : Value}
    (hv : v.isShowable = true) :
    Verdict.reject template [v] = .ok (some ⟨.string (text ++ v.display)⟩) := by
  have hplain (c : Char) (hc : c ∈ text.toList) : c ≠ '{' ∧ c ≠ '}' :=
    of_decide_eq_true (List.all_eq_true.1 h c hc)
  have hfill := Template.fill_trailing htemplate hplain hv
  simp only [Verdict.reject, ValidationError.make, List.isEmpty_cons, Bool.false_eq_true, false_and,
    if_false, hfill, Except.map]

/-! ## Repeated elements -/

/-- Elements are left out just if one equals an earlier one, or one of those that are there
already. -/
theorem length_foldl_distinct (items earlier : List Value) :
    (items.foldl (fun earlier v => if v.isAmong earlier then earlier else earlier ++ [v])
        earlier).length ≤ earlier.length + items.length ∧
      ((items.foldl (fun earlier v => if v.isAmong earlier then earlier else earlier ++ [v])
          earlier).length = earlier.length + items.length ↔
        (∀ v ∈ items, v.isAmong earlier = false) ∧
          items.Pairwise fun a b => b.equal a = false) := by
  induction items generalizing earlier with
  | nil => simp
  | cons v items ih =>
    rw [List.foldl_cons, List.length_cons, List.forall_mem_cons, List.pairwise_cons]
    cases hamong : v.isAmong earlier with
    | true =>
      obtain ⟨hle, -⟩ := ih earlier
      rw [if_pos rfl]
      refine ⟨by omega, iff_of_false (by omega) ?_⟩
      rintro ⟨⟨⟨⟩, -⟩, -⟩
    | false =>
      obtain ⟨hle, hiff⟩ := ih (earlier ++ [v])
      have hnext (w : Value) : w.isAmong (earlier ++ [v]) = false ↔
          w.isAmong earlier = false ∧ w.equal v = false := by
        simp [Value.isAmong]
      rw [if_neg Bool.false_ne_true]
      rw [List.length_append, List.length_singleton] at hle hiff
      refine ⟨by omega, ?_⟩
      rw [show earlier.length + (items.length + 1) = earlier.length + 1 + items.length by omega,
        hiff]
      simp only [hnext, forall_and, true_and]
      tauto

/-- **A list has fewer distinct elements than elements** just if one equals an earlier one. -/
theorem Value.length_distinct_eq_iff (items : List Value) :
    (Value.distinct items).length = items.length ↔
      items.Pairwise fun a b => b.equal a = false := by
  have hiff := (length_foldl_distinct items []).2
  rw [List.length_nil, Nat.zero_add] at hiff
  rw [Value.distinct, hiff]
  simp [Value.isAmong]

/-- Texts are keys. -/
theorem unhashableAmong?_strings (names : List String) :
    Value.unhashableAmong? (names.map .string) = none := by
  induction names with
  | nil => rfl
  | cons name names ih => exact ih

theorem length_distinct_strings (names : List String) :
    (Value.distinct (names.map .string)).length = (names.map Value.string).length ↔
      names.Nodup := by
  have hequal (a b : String) : (Value.string b).equal (.string a) = false ↔ a ≠ b := by
    simp only [Value.equal]
    exact beq_eq_false_iff_ne.trans ne_comm
  rw [Value.length_distinct_eq_iff, List.pairwise_map]
  simp only [hequal]
  rfl

/-! ## The verdict -/

theorem Schema.verdict_eq (s : Schema) :
    (Document.schema s).verdict = .ok (s.complaint?.map fun m => ⟨.string m⟩) := by
  have hid : Verdict.reject "Invalid issuer id: \x7b\x7d" [.string s.issuerId] =
      .ok (some ⟨.string ("Invalid issuer id: " ++ s.issuerId)⟩) :=
    Verdict.reject_trailing (by decide) (by decide) rfl
  have hrepeat : Verdict.reject "Duplicate attribute names in schema \x7b\x7d" [.string s.name] =
      .ok (some ⟨.string ("Duplicate attribute names in schema " ++ s.name)⟩) :=
    Verdict.reject_trailing (by decide) (by decide) rfl
  have htruthy : (Value.list (s.attrNames.map .string)).isTruthy = !decide (s.attrNames = []) := by
    cases s.attrNames <;> rfl
  have helements : (Value.list (s.attrNames.map .string)).repeatsElement =
      .ok (!decide s.attrNames.Nodup) := by
    have hlength := length_distinct_strings s.attrNames
    simp only [Value.repeatsElement, Value.elements, unhashableAmong?_strings, bne, ← hlength]
    rfl
  simp only [Document.verdict, Document.draft, Draft.verdict, Draft.verdictWith,
    SchemaDraft.verdictWith, Schema.draft, Schema.complaint?, htruthy, helements, hid, hrepeat]
  cases Identifier.isIdentifier (.string s.issuerId) with
  | false => rfl
  | true =>
    by_cases hempty : s.attrNames = []
    · simp only [hempty, decide_true, if_true, Bool.true_eq_false, if_false]
      rfl
    · by_cases hnodup : s.attrNames.Nodup
      · simp only [hempty, hnodup, decide_true, decide_false, not_true, Bool.true_eq_false,
          if_false]
        rfl
      · simp only [hempty, hnodup, decide_false, not_false_eq_true, Bool.true_eq_false, if_true,
          if_false]
        rfl

theorem CredentialDefinition.verdict_eq (c : CredentialDefinition) :
    (Document.credentialDefinition c).verdict = .ok (c.complaint?.map fun m => ⟨.string m⟩) := by
  have hschema : Verdict.reject "Invalid schema id: \x7b\x7d" [.string c.schemaId] =
      .ok (some ⟨.string ("Invalid schema id: " ++ c.schemaId)⟩) :=
    Verdict.reject_trailing (by decide) (by decide) rfl
  have hissuer : Verdict.reject "Invalid issuer id: \x7b\x7d" [.string c.issuerId] =
      .ok (some ⟨.string ("Invalid issuer id: " ++ c.issuerId)⟩) :=
    Verdict.reject_trailing (by decide) (by decide) rfl
  have htype : Verdict.reject "Unsupported signature type: \x7b\x7d" [.string c.type] =
      .ok (some ⟨.string ("Unsupported signature type: " ++ c.type)⟩) :=
    Verdict.reject_trailing (by decide) (by decide) rfl
  have hequal : (Value.string c.type).equal (.string signatureType) =
      decide (c.type = signatureType) := by
    simp only [Value.equal]
    exact beq_eq_decide c.type signatureType
  simp only [Document.verdict, Document.draft, Draft.verdict, Draft.verdictWith,
    CredentialDefinitionDraft.verdictWith, CredentialDefinition.draft,
    CredentialDefinition.complaint?, hequal, hschema, hissuer, htype]
  cases Identifier.isIdentifier (.string c.schemaId) with
  | false => rfl
  | true =>
    cases Identifier.isIdentifier (.string c.issuerId) with
    | false => rfl
    | true =>
      by_cases hsignature : c.type = signatureType
      · simp only [hsignature, decide_true, ne_eq, not_true, Bool.true_eq_false, if_false]
        rfl
      · simp only [hsignature, decide_false, ne_eq, not_false_eq_true, Bool.true_eq_false, if_true,
          if_false]
        rfl

/-- **The verdict on a document is the message about the first rule that it breaks.** -/
theorem Document.verdict_eq (d : Document) :
    d.verdict = .ok (d.complaint?.map fun m => ⟨.string m⟩) := by
  cases d with
  | schema s => exact s.verdict_eq
  | credentialDefinition c => exact c.verdict_eq

theorem Document.verdict_eq_ok_none_iff {d : Document} :
    d.verdict = .ok none ↔ d.complaint? = none := by
  rw [d.verdict_eq]
  cases d.complaint? <;> simp

theorem append_ne_empty {a : String} (h : a ≠ "") (b : String) : a ++ b ≠ "" := fun heq =>
  h (String.append_eq_empty_iff.1 heq).1

/-- No message is empty. -/
theorem Document.complaint?_ne_empty {d : Document} {m : String} (h : d.complaint? = some m) :
    m ≠ "" := by
  cases d with
  | schema s =>
    simp only [Document.complaint?, Schema.complaint?] at h
    split at h
    · cases h
      exact append_ne_empty (by decide) _
    split at h
    · cases h
      decide
    split at h
    · cases h
      exact append_ne_empty (by decide) _
    · cases h
  | credentialDefinition c =>
    simp only [Document.complaint?, CredentialDefinition.complaint?] at h
    split at h
    · cases h
      exact append_ne_empty (by decide) _
    split at h
    · cases h
      exact append_ne_empty (by decide) _
    split at h
    · cases h
      exact append_ne_empty (by decide) _
    · cases h

theorem Schema.complaint?_eq_none_iff {s : Schema} :
    s.complaint? = none ↔ Identifier.isIdentifier (.string s.issuerId) = true ∧
      s.attrNames ≠ [] ∧ s.attrNames.Nodup := by
  unfold Schema.complaint?
  cases Identifier.isIdentifier (.string s.issuerId) with
  | false => simp
  | true =>
    by_cases hempty : s.attrNames = []
    · simp [hempty]
    · by_cases hnodup : s.attrNames.Nodup <;> simp [hempty, hnodup]

theorem CredentialDefinition.complaint?_eq_none_iff {c : CredentialDefinition} :
    c.complaint? = none ↔ Identifier.isIdentifier (.string c.schemaId) = true ∧
      Identifier.isIdentifier (.string c.issuerId) = true ∧ c.type = signatureType := by
  unfold CredentialDefinition.complaint?
  cases Identifier.isIdentifier (.string c.schemaId) with
  | false => simp
  | true => cases Identifier.isIdentifier (.string c.issuerId) <;> simp

/-- Judging a document that has been read gives it back or rejects it with a message. -/
theorem Document.ofVerdict_eq {α : Type} (x : α) (d : Document) :
    LoadFailure.ofVerdict x d.verdict =
      match d.complaint? with
      | none => .ok x
      | some m => .error (.rejected ⟨.string m⟩) := by
  rw [d.verdict_eq]
  cases d.complaint? <;> rfl

end CredentialCheck
