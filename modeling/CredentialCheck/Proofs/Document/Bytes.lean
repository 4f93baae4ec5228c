import CredentialCheck.Proofs.Document.Complaint
import CredentialCheck.Proofs.Json.LineEndings

/-!
# Loading a text and loading its bytes

A document is read from the bytes of its text, so the text and the bytes are loaded alike; only the
report on a text that is no JSON quotes what was given. Bytes that are not UTF-8 are no JSON, and
the line endings of the text make no difference.

* `SameButInput` compares two outcomes.
* `load_bytes_text`, `load_unifyLineEndings` and `load_bytes_of_not_utf8` are the statements about
  loading.
-/

namespace CredentialCheck

open Document Text

/-! ## From the JSON text to the document -/

/-- Loads a document from the value that a JSON text spells. -/
def loadValue (model : Model) (v : Value) : Except LoadFailure Document :=
  match fromMapping model .json v with
  | .error issues => .error (.unparsable .json issues)
  | .ok d => LoadFailure.ofVerdict d d.verdict

/-- The issue of an input that is no JSON text. -/
def notJson (raw : Value) (fault : Json.Fault) : LoadFailure :=
  .unparsable .json [⟨.json fault, [], raw⟩]

/-- A text, or its bytes, are read as JSON first. -/
theorem load_of_originOf_eq_json (model : Model) {raw : Value} (h : originOf raw = .json) :
    load model raw = match Json.read .document (textBytes raw) with
      | .error fault => .error (notJson raw fault)
      | .ok v => loadValue model v := by
  cases raw with
  | string s =>
    simp only [load, parse, fromJson]
    cases Json.read .document (textBytes (.string s)) <;> rfl
  | bytes bs =>
    simp only [load, parse, fromJson]
    cases Json.read .document (textBytes (.bytes bs)) <;> rfl
  | _ => cases h

/-! ## Outcomes -/

/-- Two outcomes of loading that differ in the inputs as such only, which the report on a text that
is no JSON quotes: the fault and its wording, with the line and the column, are the same. -/
inductive SameButInput (raw raw' : Value) :
    Except LoadFailure Document → Except LoadFailure Document → Prop
  | same (outcome : Except LoadFailure Document) : SameButInput raw raw' outcome outcome
  | quoted (fault : Json.Fault)
    (hwording : Issue.message .json ⟨.json fault, [], raw⟩ =
      Issue.message .json ⟨.json fault, [], raw'⟩) :
    SameButInput raw raw' (.error (notJson raw fault)) (.error (notJson raw' fault))

variable (model : Model) {bs : List UInt8}

theorem textBytes_string_ofList (t : List Char) :
    textBytes (.string (String.ofList t)) = Utf8.encode t := by
  rw [textBytes, String.toList_ofList]

/-- **A text and its bytes are loaded alike.** -/
theorem load_bytes_text {t : List Char} (h : Utf8.decode bs = .ok t) :
    SameButInput (.bytes bs) (.string (String.ofList t)) (load model (.bytes bs))
      (load model (.string (String.ofList t))) := by
  obtain rfl := Utf8.decode_eq_ok_iff.1 h
  rw [load_of_originOf_eq_json model rfl, load_of_originOf_eq_json model rfl,
    textBytes_string_ofList, textBytes]
  cases Json.read .document (Utf8.encode t) with
  | ok v => exact .same _
  | error fault =>
    refine .quoted fault ?_
    simp only [Issue.message, textBytes, String.toList_ofList]

/-- **Bytes that are not UTF-8 are no JSON**, wherever the fault stands. -/
theorem load_bytes_of_not_utf8 {fault : Utf8.Fault} (h : Utf8.decode bs = .error fault) :
    ∃ fault', load model (.bytes bs) = .error (notJson (.bytes bs) fault') := by
  rw [load_of_originOf_eq_json model rfl, textBytes]
  cases hread : Json.read .document bs with
  | ok v =>
    obtain ⟨s, -, rfl⟩ := Json.read_sound (by decide) hread
    rw [Utf8.decode_encode] at h
    cases h
  | error fault' => exact ⟨fault', rfl⟩

/-- **A text with its line endings unified is loaded like the bytes of the text**, or neither is
JSON. -/
theorem load_unifyLineEndings (t : List Char) :
    load model (.string (String.ofList (unifyLineEndings t))) =
        load model (.bytes (Utf8.encode t)) ∨
      ∃ fault fault', load model (.bytes (Utf8.encode t)) =
          .error (notJson (.bytes (Utf8.encode t)) fault) ∧
        load model (.string (String.ofList (unifyLineEndings t))) =
          .error (notJson (.string (String.ofList (unifyLineEndings t))) fault') := by
  have hread := Json.read_unifyLineEndings (show 0 < Json.Limits.document.digits by decide) t
  rw [load_of_originOf_eq_json model rfl, load_of_originOf_eq_json model rfl,
    textBytes_string_ofList, textBytes]
  cases hexact : Json.read .document (Utf8.encode t) with
  | ok v =>
    rw [(hread v).2 hexact]
    exact .inl rfl
  | error fault =>
    cases hunified : Json.read .document (Utf8.encode (unifyLineEndings t)) with
    | ok v =>
      rw [(hread v).1 hunified] at hexact
      cases hexact
    | error fault' => exact .inr ⟨fault, fault', rfl, rfl⟩

end CredentialCheck
