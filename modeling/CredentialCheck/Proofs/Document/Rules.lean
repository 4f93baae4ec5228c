import CredentialCheck.Proofs.Document.Complaint
import CredentialCheck.Proofs.Identifier.Forms

/-!
# The rules of documents

What each document has to keep, rule by rule, with the message for those that do not: identifiers
are texts of the known forms, and attributes are told apart by their names. A message shows the
field that it is about as it stands, whatever characters that has.

* `Document.rules` are the rules in the order in which they are asked.
* `FirstBroken` finds the message of the first rule that is broken.
* `Document.verdict_decides`: the verdict is that message, or no error if all rules are kept.
* `Schema.complaint?_issuer_iff` and its kin: no two rules share a message, so the message about an
  identifier stands for the test of it.
-/

namespace CredentialCheck

open Identifier

/-- What has to be kept, and the message about those who do not. -/
abbrev Requirement := Prop × String

/-- The rules of schemas. -/
def Schema.rules (s : Schema) : List Requirement :=
  [(IdText s.issuerId.toList, "Invalid issuer id: " ++ s.issuerId),
    (s.attrNames ≠ [], "Schema must declare at least one attribute"),
    (s.attrNames.Nodup, "Duplicate attribute names in schema " ++ s.name)]

/-- The rules of credential definitions. -/
def CredentialDefinition.rules (c : CredentialDefinition) : List Requirement :=
  [(IdText c.schemaId.toList, "Invalid schema id: " ++ c.schemaId),
    (IdText c.issuerId.toList, "Invalid issuer id: " ++ c.issuerId),
    (c.type = "CL", "Unsupported signature type: " ++ c.type)]

/-- The rules of a document. -/
def Document.rules : Document → List Requirement
  | .schema s => s.rules
  | .credentialDefinition c => c.rules

/-- The message is that of the first rule that is broken. -/
inductive FirstBroken : List Requirement → String → Prop
  | here {kept : Prop} {message : String} {rules : List Requirement} (h : ¬ kept) :
    FirstBroken ((kept, message) :: rules) message
  | later {kept : Prop} {message m : String} {rules : List Requirement} (h : kept)
    (hrest : FirstBroken rules m) : FirstBroken ((kept, message) :: rules) m

theorem firstBroken_nil (m : String) : ¬ FirstBroken [] m := fun h => nomatch h

theorem firstBroken_cons {kept : Prop} {message m : String} {rules : List Requirement} :
    FirstBroken ((kept, message) :: rules) m ↔
      ¬ kept ∧ message = m ∨ kept ∧ FirstBroken rules m := by
  constructor
  · rintro (h | ⟨h, hrest⟩)
    · exact .inl ⟨h, rfl⟩
    · exact .inr ⟨h, hrest⟩
  · rintro (⟨h, rfl⟩ | ⟨h, hrest⟩)
    · exact .here h
    · exact .later h hrest

/-! ## Complaints and rules -/

theorem isIdentifier_eq_false_iff (s : String) :
    isIdentifier (.string s) = false ↔ ¬ IdText s.toList := by
  rw [← isIdentifier_iff, Bool.not_eq_true]

/-- Asking a rule: its message if it is broken, else what the other rules say. -/
theorem ite_eq_some_iff {broken : Prop} [Decidable broken] {kept : Prop} {message m : String}
    {rest : Option String} {rules : List Requirement} (hrule : broken ↔ ¬ kept)
    (hrest : rest = some m ↔ FirstBroken rules m) :
    (if broken then some message else rest) = some m ↔
      FirstBroken ((kept, message) :: rules) m := by
  rw [firstBroken_cons]
  by_cases h : broken
  · have hkept := hrule.1 h
    simp only [if_pos h, Option.some.injEq, hkept, not_false_eq_true, true_and, false_and, or_false]
  · have hkept : kept := not_not.1 fun hn => h (hrule.2 hn)
    simp only [if_neg h, hrest, hkept, not_true_eq_false, false_and, true_and, false_or]

theorem Document.complaint?_eq_some_iff {d : Document} {m : String} :
    d.complaint? = some m ↔ FirstBroken d.rules m := by
  have hend : none = some m ↔ FirstBroken [] m :=
    by simp [firstBroken_nil]
  cases d with
  | schema s =>
    exact ite_eq_some_iff (isIdentifier_eq_false_iff _)
      (ite_eq_some_iff not_not.symm (ite_eq_some_iff Iff.rfl hend))
  | credentialDefinition c =>
    exact ite_eq_some_iff (isIdentifier_eq_false_iff _)
      (ite_eq_some_iff (isIdentifier_eq_false_iff _) (ite_eq_some_iff Iff.rfl hend))

theorem Document.complaint?_eq_none_iff {d : Document} :
    d.complaint? = none ↔ ∀ rule ∈ d.rules, rule.1 := by
  cases d with
  | schema s =>
    simp only [Document.complaint?, Schema.complaint?_eq_none_iff, isIdentifier_iff, rules,
      Schema.rules, List.forall_mem_cons, List.not_mem_nil, false_implies, implies_true, and_true]
  | credentialDefinition c =>
    simp only [Document.complaint?, CredentialDefinition.complaint?_eq_none_iff, isIdentifier_iff,
      rules, CredentialDefinition.rules, signatureType, List.forall_mem_cons, List.not_mem_nil,
      false_implies, implies_true, and_true]

/-! ## The verdict -/

/-- **The verdict decides.** A document is judged without a failure: there is no error just if it
keeps all its rules, and otherwise the error has the message of the first one that it breaks. -/
theorem Document.verdict_decides (d : Document) :
    (∃ error?, d.verdict = .ok error?) ∧ (d.verdict = .ok none ↔ ∀ rule ∈ d.rules, rule.1) ∧
      ∀ e : ValidationError, d.verdict = .ok (some e) ↔
        ∃ m, FirstBroken d.rules m ∧ e = ⟨.string m⟩ := by
  refine ⟨⟨_, d.verdict_eq⟩, d.verdict_eq_ok_none_iff.trans d.complaint?_eq_none_iff, fun e => ?_⟩
  rw [d.verdict_eq, Except.ok.injEq, Option.map_eq_some_iff]
  exact exists_congr fun m => and_congr complaint?_eq_some_iff eq_comm

/-! ## Identifiers in documents -/

/-- Texts that differ at a place are different, whatever stands behind them. -/
theorem append_ne_append {a b : String} {i : Nat} (ha : i < a.length) (hb : i < b.length)
    (h : a.toList[i]? ≠ b.toList[i]?) (x y : String) : a ++ x ≠ b ++ y := by
  intro heq
  have hlists := congrArg (fun s : String => s.toList[i]?) heq
  simp only [String.toList_append] at hlists
  rw [List.getElem?_append_left ha, List.getElem?_append_left hb] at hlists
  exact h hlists

theorem Schema.complaint?_issuer_iff (d : Schema) :
    d.complaint? = some ("Invalid issuer id: " ++ d.issuerId) ↔
      isIdentifier (.string d.issuerId) = false := by
  have hnone : "Schema must declare at least one attribute" ≠ "Invalid issuer id: " ++ d.issuerId :=
    append_ne_append (a := "Schema must declare at least one attribute") (i := 0) (by decide)
      (by decide) (by decide) "" d.issuerId
  have hrepeated : "Duplicate attribute names in schema " ++ d.name ≠
      "Invalid issuer id: " ++ d.issuerId :=
    append_ne_append (i := 0) (by decide) (by decide) (by decide) d.name d.issuerId
  unfold Schema.complaint?
  split
  · next hid => simp [hid]
  · next hid =>
    refine iff_of_false ?_ hid
    split
    · simpa using hnone
    · split
      · simpa using hrepeated
      · simp

theorem CredentialDefinition.complaint?_schema_iff (c : CredentialDefinition) :
    c.complaint? = some ("Invalid schema id: " ++ c.schemaId) ↔
      isIdentifier (.string c.schemaId) = false := by
  have hissuer : "Invalid issuer id: " ++ c.issuerId ≠ "Invalid schema id: " ++ c.schemaId :=
    append_ne_append (i := 8) (by decide) (by decide) (by decide) c.issuerId c.schemaId
  have htype : "Unsupported signature type: " ++ c.type ≠ "Invalid schema id: " ++ c.schemaId :=
    append_ne_append (i := 0) (by decide) (by decide) (by decide) c.type c.schemaId
  unfold CredentialDefinition.complaint?
  split
  · next hid => simp [hid]
  · next hid =>
    refine iff_of_false ?_ hid
    split
    · simpa using hissuer
    · split
      · simpa using htype
      · simp

/-- The issuer is looked at once the schema has been found to be an identifier. -/
theorem CredentialDefinition.complaint?_issuer_iff (c : CredentialDefinition) :
    c.complaint? = some ("Invalid issuer id: " ++ c.issuerId) ↔
      isIdentifier (.string c.schemaId) = true ∧ isIdentifier (.string c.issuerId) = false := by
  have hschema : "Invalid schema id: " ++ c.schemaId ≠ "Invalid issuer id: " ++ c.issuerId :=
    append_ne_append (i := 8) (by decide) (by decide) (by decide) c.schemaId c.issuerId
  have htype : "Unsupported signature type: " ++ c.type ≠ "Invalid issuer id: " ++ c.issuerId :=
    append_ne_append (i := 0) (by decide) (by decide) (by decide) c.type c.issuerId
  unfold CredentialDefinition.complaint?
  split
  · next hid => simpa [hid] using hschema
  · next hid =>
    rw [Bool.not_eq_false] at hid
    split
    · next hissuer => simp [hid, hissuer]
    · next hissuer =>
      refine iff_of_false ?_ fun h => hissuer h.2
      split
      · simpa using htype
      · simp

/-- A message that stands for one check is missing just if the check succeeds. -/
theorem Document.verdict_ne_iff {d : Document} {m : String} {kept : Bool}
    (h : d.complaint? = some m ↔ kept = false) :
    d.verdict ≠ .ok (some ⟨.string m⟩) ↔ kept = true := by
  have hverdict : d.verdict = .ok (some ⟨.string m⟩) ↔ d.complaint? = some m := by
    rw [d.verdict_eq, Except.ok.injEq, Option.map_eq_some_iff]
    simp
  rw [Ne, hverdict, h, Bool.not_eq_false]

end CredentialCheck
