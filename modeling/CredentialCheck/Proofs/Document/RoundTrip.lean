import CredentialCheck.Proofs.Document.Complaint
import CredentialCheck.Proofs.Json.Complete
import CredentialCheck.Proofs.Json.Writer

/-!
# Documents there and back

A document that keeps the rules, written as JSON and loaded again, is the same document. The text
is in the grammar of the reader, so it is read as the dictionary that was written; the fields are
found under either spelling; and the verdict is that on the document before.

* `Document.Writable` says which documents come back.
* `Document.readFields_spelled`: the fields are read from the dictionary of a document.
* `load_written` is the round trip.
-/

namespace CredentialCheck

open Document

/-! ## Texts, lists of texts and mappings -/

section

variable (origin : Origin) (location : List Step)

theorem readText_string (s : String) : readText origin location (.string s) = .ok s := by
  cases origin <;> rfl

theorem readEach_strings (index : Nat) (names : List String) :
    readEach origin location index (names.map .string) = .ok names := by
  induction names generalizing index with
  | nil => rfl
  | cons name names ih =>
    rw [List.map_cons, readEach, readText_string, ih]
    rfl

theorem readTexts_strings (names : List String) :
    readTexts origin location (.list (names.map .string)) = .ok names := by
  cases origin <;> exact readEach_strings _ location 0 names

theorem readKeys_textEntries (entries : List (String × Value)) :
    readKeys origin location (textEntries entries) = .ok entries := by
  induction entries with
  | nil => rfl
  | cons e es ih =>
    rw [textEntries_cons, readKeys, readText_string, ih]
    rfl

end

theorem readMapping_textEntries (origin : Origin) (location : List Step)
    {entries : List (String × Value)} (h : (entries.map Prod.fst).Nodup) :
    readMapping origin location (.dict (textEntries entries)) = .ok entries := by
  simp only [readMapping, readKeys_textEntries, Except.map]
  exact congrArg _ (putEntries_of_nodup [] h)

/-! ## Fields by name -/

/-- The fields of a draft under their spellings. -/
def Draft.spelled (d : Draft) (camel : Bool) : List (String × Value) :=
  d.fields.map fun f => (if camel then f.1.camel else f.1.snake, f.2)

theorem Draft.dump_eq (d : Draft) (camel : Bool) :
    d.dump camel = .dict (textEntries (d.spelled camel)) := by
  rw [Draft.dump, Draft.spelled, textEntries, List.map_map]
  rfl

theorem Draft.nodup_spelled (d : Draft) (camel : Bool) :
    ((d.spelled camel).map Prod.fst).Nodup := by
  cases d <;> cases camel <;>
    simp [Draft.spelled, Draft.fields, issuerIdKey, schemaIdKey, attrNamesKey, plainKey]

/-- Each field is found, whichever spelling was chosen. -/
theorem Draft.find?_spelled (d : Draft) (camel : Bool) {f : Key × Value} (hf : f ∈ d.fields) :
    ∃ spelling, f.1.find? (textEntries (d.spelled camel)) = some (spelling, f.2) := by
  simp only [Key.find?, lookup?_textEntries]
  cases d with
  | schema d =>
    simp only [Draft.fields, List.mem_cons, List.not_mem_nil, or_false] at hf
    cases camel <;> rcases hf with rfl | rfl | rfl | rfl <;> exact ⟨_, rfl⟩
  | credentialDefinition d =>
    simp only [Draft.fields, List.mem_cons, List.not_mem_nil, or_false] at hf
    cases camel <;> rcases hf with rfl | rfl | rfl | rfl | rfl <;> exact ⟨_, rfl⟩

/-- A field that is found is read, whatever its default is. -/
theorem Draft.read_spelled {α : Type} (d : Draft) (camel : Bool) {key : Key} {v : Value}
    (hf : (key, v) ∈ d.fields) (default? : Option α) {reader : List Step → Value → Reading α}
    {x : α} (hread : ∀ location, reader location v = .ok x) :
    key.read (textEntries (d.spelled camel)) default? reader = .ok x := by
  obtain ⟨spelling, hfind⟩ := d.find?_spelled camel hf
  simp only [Key.read, hfind, hread]

/-! ## Documents -/

/-- The model of a document. -/
def Document.model (d : Document) : Model := d.draft.model

/-- Which documents come back from their text: the keys of a credential definition have to fit, one
level below the document. -/
def Document.Writable : Document → Prop
  | .schema _ => True
  | .credentialDefinition c =>
    Json.Fits Json.Limits.document.digits (Json.Limits.document.depth - 1) c.draft.value

/-- Whether no key of a credential definition stands twice. -/
def Document.HasDistinctKeys : Document → Prop
  | .schema _ => True
  | .credentialDefinition c => (c.value.map Prod.fst).Nodup

/-- Only entries with different keys fit. -/
theorem nodup_of_fits {digits depth : Nat} {entries : List (String × Value)}
    (h : Json.Fits digits depth (.dict (textEntries entries))) : (entries.map Prod.fst).Nodup := by
  generalize hv : Value.dict (textEntries entries) = v at h
  cases h with
  | dict hkeys _ =>
    cases textEntries_injective (Value.dict.inj hv)
    exact hkeys
  | _ => cases hv

theorem Document.Writable.hasDistinctKeys {d : Document} (h : d.Writable) :
    d.HasDistinctKeys := by
  cases d with
  | schema s => trivial
  | credentialDefinition c => exact nodup_of_fits h

theorem Document.readFields_spelled {d : Document} (h : d.HasDistinctKeys) (origin : Origin)
    (camel : Bool) :
    d.model.readFields origin (textEntries (d.draft.spelled camel)) = .ok d := by
  have htext (key : Key) (s : String) (default? : Option String)
      (hf : (key, .string s) ∈ d.draft.fields) :
      key.read (textEntries (d.draft.spelled camel)) default? (readText origin) = .ok s :=
    d.draft.read_spelled camel hf default? fun location => readText_string origin location s
  cases d with
  | schema s =>
    have hmem : (attrNamesKey, .list (s.attrNames.map .string)) ∈
        (Document.schema s).draft.fields := by
      simp [Document.draft, Draft.fields, Schema.draft]
    have hnames := Draft.read_spelled _ camel hmem (some [])
      fun location => readTexts_strings origin location s.attrNames
    show (readSchema origin _).map Document.schema = _
    rw [readSchema, htext issuerIdKey s.issuerId, htext (plainKey "name") s.name,
      htext (plainKey "version") s.version, hnames]
    · rfl
    all_goals simp [Document.draft, Draft.fields, Schema.draft]
  | credentialDefinition c =>
    have hmem : (plainKey "value", .dict (textEntries c.value)) ∈
        (Document.credentialDefinition c).draft.fields := by
      simp [Document.draft, Draft.fields, CredentialDefinition.draft, textEntries]
    have hvalue := Draft.read_spelled _ camel hmem (some [])
      fun location => readMapping_textEntries origin location h
    show (readCredentialDefinition origin _).map Document.credentialDefinition = _
    rw [readCredentialDefinition, htext schemaIdKey c.schemaId, htext issuerIdKey c.issuerId,
      htext (plainKey "tag") c.tag, htext (plainKey "type") c.type, hvalue]
    · rfl
    all_goals simp [Document.draft, Draft.fields, CredentialDefinition.draft]

theorem Document.fits_dump {d : Document} (h : d.Writable) (camel : Bool) :
    Json.Fits Json.Limits.document.digits Json.Limits.document.depth (d.draft.dump camel) := by
  rw [Draft.dump_eq]
  refine .dict (d.draft.nodup_spelled camel) fun e he => ?_
  obtain ⟨f, hf, rfl⟩ := List.mem_map.1 he
  cases d with
  | schema s =>
    simp only [Document.draft, Draft.fields, Schema.draft, List.mem_cons, List.not_mem_nil,
      or_false] at hf
    rcases hf with rfl | rfl | rfl | rfl
    · exact .string _
    · exact .string _
    · exact .string _
    · refine .list fun v hv => ?_
      obtain ⟨name, -, rfl⟩ := List.mem_map.1 hv
      exact .string name
  | credentialDefinition c =>
    simp only [Document.draft, Draft.fields, CredentialDefinition.draft, List.mem_cons,
      List.not_mem_nil, or_false] at hf
    rcases hf with rfl | rfl | rfl | rfl | rfl
    · exact .string _
    · exact .string _
    · exact .string _
    · exact .string _
    · exact h

/-! ## There and back -/

/-- A text that spells the dictionary of a document is read as the document. -/
theorem Document.parse_of_wholeText {d : Document} (h : d.Writable) {camel : Bool}
    {text : List Char}
    (htext : Json.Grammar.WholeText Json.Limits.document text (d.draft.dump camel)) (raw : Value) :
    fromJson d.model raw (Text.Utf8.encode text) = .ok d := by
  rw [Draft.dump_eq] at htext
  simp only [fromJson, Json.read_complete htext, fromMapping,
    d.readFields_spelled h.hasDistinctKeys]

/-- **A document that keeps the rules is written, in any style and under either spelling of its
fields, and is loaded again from the text and from its bytes.** -/
theorem load_written {d : Document} (hvalid : d.verdict = .ok none) (hwritable : d.Writable)
    (l : Json.Style) (camel : Bool) :
    ∃ text, Json.write? l 0 (d.draft.dump camel) = some text ∧
      load d.model (.string (String.ofList text)) = .ok d ∧
      load d.model (.bytes (Text.Utf8.encode text)) = .ok d := by
  obtain ⟨text, hwrite, htext⟩ := Json.exists_write?_wholeText l (d.fits_dump hwritable camel)
  have hload (raw : Value)
      (hraw : parse d.model raw = fromJson d.model raw (Text.Utf8.encode text)) :
      load d.model raw = .ok d := by
    rw [load, hraw, Document.parse_of_wholeText hwritable htext]
    simp only [hvalid, LoadFailure.ofVerdict]
  refine ⟨text, hwrite, hload _ ?_, hload _ rfl⟩
  simp only [parse, textBytes, String.toList_ofList]

/-- A credential definition of which only the keys are left open. -/
def definitionOf (value : List (String × Value)) : Document :=
  .credentialDefinition ⟨"did:1", "did:2", "tag", signatureType, value⟩

theorem definitionOf_valid (value : List (String × Value)) :
    (definitionOf value).verdict = .ok none := by
  have hschema : Identifier.isIdentifier (.string "did:1") = true := by decide +kernel
  have hissuer : Identifier.isIdentifier (.string "did:2") = true := by decide +kernel
  rw [Document.verdict_eq_ok_none_iff]
  exact CredentialDefinition.complaint?_eq_none_iff.2 ⟨hschema, hissuer, rfl⟩

/-- Keys with a negative number and a character that has an escape. -/
def sampleKeys : List (String × Value) := [("é\n", .list [.integer (-1), .null])]

theorem load_written_sampleKeys :
    (definitionOf sampleKeys).verdict = .ok none ∧ (definitionOf sampleKeys).Writable ∧
      ∃ text, Json.write? .usual 0 ((definitionOf sampleKeys).draft.dump true) = some text ∧
        load .credentialDefinition (.string (String.ofList text)) =
          .ok (definitionOf sampleKeys) := by
  have hlist : Json.Fits 4300 199 (.list [.integer (-1), .null]) := by
    refine .list fun v hv => ?_
    simp only [List.mem_cons, List.not_mem_nil, or_false] at hv
    rcases hv with rfl | rfl
    · exact .integer (by decide)
    · exact .null
  have hwritable : (definitionOf sampleKeys).Writable := by
    refine .dict (by decide) fun e he => ?_
    rw [List.mem_singleton.1 he]
    exact hlist
  obtain ⟨text, hwrite, hload, -⟩ := load_written (definitionOf_valid _) hwritable .usual true
  exact ⟨definitionOf_valid _, hwritable, text, hwrite, hload⟩

/-! ## What does not come back -/

/-- Lists inside each other around a value. -/
def Value.nested (v : Value) : (levels : Nat) → Value
  | 0 => v
  | levels + 1 => .list [v.nested levels]

mutual

/-- How deep lists and dictionaries are nested in a value, with itself. -/
def Value.nesting : Value → Nat
  | .tuple items | .set items | .list items => Value.nestingAmong items + 1
  | .dict entries => Value.nestingEntries entries + 1
  | _ => 0

/-- The greatest nesting among values. -/
def Value.nestingAmong : List Value → Nat
  | [] => 0
  | v :: vs => max v.nesting (Value.nestingAmong vs)

/-- The greatest nesting among the values of entries. -/
def Value.nestingEntries : List (Value × Value) → Nat
  | [] => 0
  | (_, v) :: es => max v.nesting (Value.nestingEntries es)

end

/-- Keys in which a dictionary has a number as its key. -/
def numberedKeys : List (String × Value) := [("n", .dict [(.integer 1, .null)])]

/-- Keys that stand inside 201 lists and dictionaries, with the document and its field. -/
def deepKeys : List (String × Value) := [("n", Value.nested .null 199)]

/-- Whether what has been loaded is a credential definition with equal keys. -/
def holdsKeys (value : List (String × Value)) : Except LoadFailure Document → Bool
  | .ok (.credentialDefinition c) =>
    Value.equal (.dict (textEntries c.value)) (.dict (textEntries value))
  | _ => false

/-- Whether the definition with these keys is written, and then loaded with equal keys. -/
def returnsKeys? (value : List (String × Value)) : Option Bool :=
  (Json.write? .usual 0 ((definitionOf value).draft.dump true)).map fun text =>
    holdsKeys value (load .credentialDefinition (.bytes (Text.Utf8.encode text)))

/-- The bytes of a text are loaded as the text is. -/
theorem load_ofList_eq_ok_iff {model : Model} {text : List Char} {d : Document} :
    load model (.string (String.ofList text)) = .ok d ↔
      load model (.bytes (Text.Utf8.encode text)) = .ok d := by
  simp only [load, parse, textBytes, String.toList_ofList, fromJson]
  cases Json.read .document (Text.Utf8.encode text) with
  | error fault => simp [issueAt]
  | ok v =>
    simp only
    cases fromMapping model .json v <;> simp

theorem exists_of_returnsKeys? {value : List (String × Value)} (h : returnsKeys? value = some false)
    (hequal : Value.equal (.dict (textEntries value)) (.dict (textEntries value)) = true) :
    ∃ text, Json.write? .usual 0 ((definitionOf value).draft.dump true) = some text ∧
      load .credentialDefinition (.string (String.ofList text)) ≠ .ok (definitionOf value) := by
  obtain ⟨text, hwrite, hload⟩ := Option.map_eq_some_iff.1 h
  refine ⟨text, hwrite, fun heq => ?_⟩
  rw [load_ofList_eq_ok_iff.1 heq] at hload
  exact absurd hload (by simp only [holdsKeys, definitionOf, hequal]; decide)

/-- A dictionary whose keys are numbers has them as texts when it comes back, and a value inside 201
lists and dictionaries, which is no list or dictionary itself, is too deep for the reader. -/
theorem written_not_loaded :
    ((definitionOf numberedKeys).verdict = .ok none ∧
      ∃ text, Json.write? .usual 0 ((definitionOf numberedKeys).draft.dump true) = some text ∧
        load .credentialDefinition (.string (String.ofList text)) ≠
          .ok (definitionOf numberedKeys)) ∧
    ((definitionOf deepKeys).verdict = .ok none ∧
      ((definitionOf deepKeys).draft.dump true).nesting = 201 ∧
      ∃ text, Json.write? .usual 0 ((definitionOf deepKeys).draft.dump true) = some text ∧
        load .credentialDefinition (.string (String.ofList text)) ≠ .ok (definitionOf deepKeys)) :=
  ⟨⟨definitionOf_valid _, exists_of_returnsKeys? (by decide +kernel) (by decide +kernel)⟩,
    definitionOf_valid _, by decide +kernel,
    exists_of_returnsKeys? (by decide +kernel) (by decide +kernel)⟩

end CredentialCheck
