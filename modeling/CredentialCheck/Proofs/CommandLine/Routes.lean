import CredentialCheck.Proofs.CommandLine.Statuses
import CredentialCheck.Proofs.Document.Rules

/-!
# Routes to a verdict on an identifier

A text is judged in several places: by the tests of the two forms, by naming its form, by the check
against a form asked for, by the rules of documents, and by the command. The two forms have no text
in common, so it does not matter which is tried first, and all these routes agree.

* `identifierLine_eq_invalid_iff`: what the line for an identifier says.
* `routes_agree` puts the routes side by side.
-/

namespace CredentialCheck.CommandLine

open Identifier

/-- The line for an identifier calls it invalid if it does not have the form asked for. -/
theorem identifierLine_eq_invalid_iff (asked : Value) (s : String) :
    identifierLine asked s = s ++ ": invalid" ↔ accepts (.string s) asked = false := by
  have hline : s ++ ": invalid" = s ++ ": " ++ "invalid" := by
    rw [String.append_assoc]
    rfl
  rw [identifierLine, hline, String.append_right_inj]
  cases haccepts : accepts (.string s) asked with
  | false => simp
  | true =>
    have hform := classify_ne_invalid_of_accepts haccepts
    cases hclassify : Identifier.classify (.string s) with
    | invalid => exact absurd hclassify hform
    | uri | legacy => simp [Form.name]

theorem getElem?_items {a : Arguments} {i : Nat} {s : String} (h : a.identifiers[i]? = some s) :
    a.items[i]? = some (.identifier s) := by
  obtain ⟨hlength, -⟩ := List.getElem?_eq_some_iff.1 h
  rw [Arguments.items, List.append_assoc, List.getElem?_append_left (by simpa using hlength),
    List.getElem?_map, h]
  rfl

/-- **All routes to a verdict agree.** No text has both forms, so naming the form does not depend on
the order of the tests. Naming it, the check against any form and the checks against the two forms
find the same texts, and a form that is asked for and that nobody knows is not found. The rules of
documents object to an identifier in a field just if a run of the command that asks for any form
calls it invalid. -/
theorem routes_agree (s : String) :
    ¬ (isUri (.string s) = true ∧ isLegacy (.string s) = true) ∧
    (Identifier.classify (.string s) = if isLegacy (.string s) then .legacy
      else if isUri (.string s) then .uri else .invalid) ∧
    (isIdentifier (.string s) = true ↔ Identifier.classify (.string s) ≠ .invalid) ∧
    (isIdentifier (.string s) = true ↔ accepts (.string s) (.string "any") = true) ∧
    (isIdentifier (.string s) = true ↔ accepts (.string s) (.string "uri") = true ∨
      accepts (.string s) (.string "legacy") = true) ∧
    (∀ kind : String, accepts (.string s) (.string kind) = true ↔
      kind = "any" ∧ isIdentifier (.string s) = true ∨ kind = "uri" ∧ isUri (.string s) = true ∨
        kind = "legacy" ∧ isLegacy (.string s) = true) ∧
    ∀ {env : List (String × String)} {argv : List String} {a : Arguments}
      {files opened : FileSystem} {place? : Option Path} {i : Nat},
      parse (.ofEnvironment env) argv = .ok a → a.kind = .string "any" →
      openLog? files a.logFile = some (place?, opened) →
      (∀ path, .string path ∈ a.schemas ++ a.credentialDefinitions → '\x00' ∉ path.toList) →
      a.identifiers[i]? = some s → ∀ stamp : String,
      ∃ status w line,
        (run (.ofEnvironment env) argv).run (.fresh files stamp) = (.status status, w) ∧
        (w.console.prints .output)[i]? = some (line ++ "\n") ∧
        (∀ d : Schema, d.issuerId = s →
          ((Document.schema d).verdict ≠ .ok (some ⟨.string ("Invalid issuer id: " ++ s)⟩) ↔
            line ≠ s ++ ": invalid")) ∧
        (∀ c : CredentialDefinition, c.schemaId = s →
          ((Document.credentialDefinition c).verdict ≠
              .ok (some ⟨.string ("Invalid schema id: " ++ s)⟩) ↔ line ≠ s ++ ": invalid")) ∧
        (∀ c : CredentialDefinition, isIdentifier (.string c.schemaId) = true → c.issuerId = s →
          ((Document.credentialDefinition c).verdict ≠
              .ok (some ⟨.string ("Invalid issuer id: " ++ s)⟩) ↔ line ≠ s ++ ": invalid")) := by
  have hany := accepts_iff s "any"
  have huri := accepts_iff s "uri"
  have hlegacy := accepts_iff s "legacy"
  simp only [String.reduceEq, true_and, false_and, or_false, false_or] at hany huri hlegacy
  refine ⟨?_, classify_eq_swapped s, (classify_ne_invalid_iff _).symm, hany.symm, ?_,
    accepts_iff s, ?_⟩
  · rintro ⟨huri, hlegacy⟩
    rw [isLegacy_eq_false huri] at hlegacy
    cases hlegacy
  · rw [huri, hlegacy, isIdentifier, Bool.or_eq_true]
  · intro env argv a files opened place? i hparse hkind hlog hnull hs stamp
    obtain ⟨reports, w, hshows, hrun, houtput⟩ :=
      run_reports hparse (nullFree_of_paths hparse hnull) hlog stamp
    obtain ⟨report, hreport, hshown⟩ := exists_report hshows (getElem?_items hs)
    obtain rfl := (shows_identifier_iff a.kind s report).1 hshown
    -- the line says whether the text is an identifier, and so does every rule about it
    have hline : identifierLine a.kind s ≠ s ++ ": invalid" ↔ isIdentifier (.string s) = true := by
      rw [Ne, identifierLine_eq_invalid_iff, Bool.not_eq_false, hkind, hany]
    refine ⟨_, w, identifierLine a.kind s, hrun, ?_, ?_, ?_, ?_⟩
    · rw [houtput, List.getElem?_map, hreport]
      rfl
    · rintro d rfl
      rw [hline]
      exact Document.verdict_ne_iff d.complaint?_issuer_iff
    · rintro c rfl
      rw [hline]
      exact Document.verdict_ne_iff c.complaint?_schema_iff
    · rintro c hschema rfl
      rw [hline]
      refine Document.verdict_ne_iff (c.complaint?_issuer_iff.trans ?_)
      simp only [hschema, true_and]

/-- A definition whose issuer would be a legacy identifier but for the colon behind it, and a URI
but for the missing tail. -/
def colonDefinition : CredentialDefinition :=
  ⟨"did:x:y", "NcYxiDXkpYi6ov5FcYDi1:", "", "CL", []⟩

/-- The command and the rules of documents both object to this issuer. -/
theorem routes_agree_colon : ∃ status w,
    (run (.ofEnvironment []) ["--kind", "any", "did:x:y", "NcYxiDXkpYi6ov5FcYDi1:"]).run
        (.fresh (.usual []) "") = (.status status, w) ∧
      (w.console.prints .output)[1]? = some "NcYxiDXkpYi6ov5FcYDi1:: invalid\n" ∧
      (Document.credentialDefinition colonDefinition).verdict =
        .ok (some ⟨.string "Invalid issuer id: NcYxiDXkpYi6ov5FcYDi1:"⟩) := by
  have hparse : parse (.ofEnvironment []) ["--kind", "any", "did:x:y", "NcYxiDXkpYi6ov5FcYDi1:"] =
      .ok ⟨["did:x:y", "NcYxiDXkpYi6ov5FcYDi1:"], .string "any", [], [], .string "WARNING",
        .null⟩ := rfl
  have hschema : isIdentifier (.string colonDefinition.schemaId) = true := by decide +kernel
  have hcomplaint : (Document.credentialDefinition colonDefinition).complaint? =
      some "Invalid issuer id: NcYxiDXkpYi6ov5FcYDi1:" := by decide +kernel
  have hverdict : (Document.credentialDefinition colonDefinition).verdict =
      .ok (some ⟨.string "Invalid issuer id: NcYxiDXkpYi6ov5FcYDi1:"⟩) := by
    rw [Document.verdict_eq, hcomplaint]
    rfl
  obtain ⟨status, w, line, hrun, hprinted, -, -, hissuer⟩ :=
    (routes_agree colonDefinition.issuerId).2.2.2.2.2.2 (i := 1) hparse rfl rfl nofun rfl ""
  have hinvalid := not_ne_iff.1 ((hissuer _ hschema rfl).not.1 (not_not.2 hverdict))
  rw [hinvalid] at hprinted
  exact ⟨status, w, hrun, hprinted, hverdict⟩

end CredentialCheck.CommandLine
