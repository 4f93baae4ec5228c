import CredentialCheck.Proofs.Document.Complaint
import CredentialCheck.Proofs.Json.Complete
import CredentialCheck.Proofs.Json.Decoded
import CredentialCheck.Proofs.Json.Writer

/-!
# Loading a text and loading the dictionary it spells

A JSON text and the value that it spells lead to the same outcome: the same document, the same
verdict, or issues that agree in everything but the wording of three rules. A dictionary in memory
may hold more than a text can spell, and is read with more indulgence; none of the values for which
that makes a difference comes out of a text.

* `SameOutcome` compares two outcomes.
* `readFields_origin`: on values of JSON the fields are read alike.
* `load_text_sameOutcome` is the statement about loading.
-/

namespace CredentialCheck

open Document Value

/-! ## Readers on values of JSON -/

section

variable (location : List Step)

theorem readText_origin {v : Value} (h : IsJson v) :
    readText .json location v = readText .mapping location v := by
  cases h <;> rfl

theorem readEach_origin {items : List Value} (h : ∀ v ∈ items, IsJson v) (index : Nat) :
    readEach .json location index items = readEach .mapping location index items := by
  induction items generalizing index with
  | nil => rfl
  | cons v vs ih =>
    rw [readEach, readEach, readText_origin _ (h v List.mem_cons_self),
      ih fun w hw => h w (List.mem_cons_of_mem v hw)]

theorem readTexts_origin {v : Value} (h : IsJson v) :
    readTexts .json location v = readTexts .mapping location v := by
  cases h with
  | list hitems => exact readEach_origin location hitems 0
  | _ => rfl

theorem readKeys_origin (entries : List (String × Value)) :
    readKeys .json location (textEntries entries) =
      readKeys .mapping location (textEntries entries) := by
  induction entries with
  | nil => rfl
  | cons e es ih =>
    rw [textEntries_cons, readKeys, readKeys, readText_origin _ (.string e.1), ih]

theorem readMapping_origin {v : Value} (h : IsJson v) :
    readMapping .json location v = readMapping .mapping location v := by
  cases h with
  | dict _ _ => simp only [readMapping, readKeys_origin]
  | _ => rfl

end

/-- What is found in a dictionary of JSON is a value of JSON. -/
theorem isJson_of_find? {key : Key} {entries : List (Value × Value)} {spelling : String} {v : Value}
    (h : ∀ e ∈ entries, IsJson e.2) (hfind : key.find? entries = some (spelling, v)) :
    IsJson v := by
  have hlookup {k w : Value} (hw : lookup? entries k = some w) : IsJson w := by
    obtain ⟨e, he, rfl⟩ := Option.map_eq_some_iff.1 hw
    exact h e (List.mem_of_find?_eq_some he)
  unfold Key.find? at hfind
  split at hfind
  · next w hw =>
    cases hfind
    exact hlookup hw
  · obtain ⟨w, hw, heq⟩ := Option.map_eq_some_iff.1 hfind
    cases heq
    exact hlookup hw

/-- Fields are read alike by readers that agree on values of JSON. -/
theorem Document.Key.read_origin {α : Type} (key : Key) {entries : List (Value × Value)}
    (h : ∀ e ∈ entries, IsJson e.2) (default? : Option α)
    {reader : Origin → List Step → Value → Reading α}
    (hreader : ∀ location {v}, IsJson v → reader .json location v = reader .mapping location v) :
    key.read entries default? (reader .json) = key.read entries default? (reader .mapping) := by
  unfold Key.read
  split
  · next spelling v _ hfind => exact hreader _ (isJson_of_find? h hfind)
  · rfl
  · rfl

theorem readFields_origin (model : Model) {entries : List (Value × Value)}
    (h : ∀ e ∈ entries, IsJson e.2) :
    model.readFields .json entries = model.readFields .mapping entries := by
  have htext (key : Key) (default? : Option String) :
      key.read entries default? (readText .json) = key.read entries default? (readText .mapping) :=
    key.read_origin h default? fun location => readText_origin location
  cases model with
  | schema =>
    simp only [Model.readFields, readSchema, htext,
      attrNamesKey.read_origin h _ fun location => readTexts_origin location]
  | credentialDefinition =>
    simp only [Model.readFields, readCredentialDefinition, htext,
      (plainKey "value").read_origin h _ fun location => readMapping_origin location]

theorem fromMapping_origin (model : Model) {v : Value} (h : IsJson v) :
    fromMapping model .json v = fromMapping model .mapping v := by
  cases h with
  | @dict entries _ hentries =>
    refine readFields_origin model fun e he => ?_
    obtain ⟨d, hd, rfl⟩ := List.mem_map.1 he
    exact hentries d hd
  | _ => rfl

/-! ## Outcomes -/

/-- The rules that are worded after the origin of the input. -/
def originRules : List String := ["list_type", "dict_type", "model_type"]

theorem Document.Issue.message_origin (issue : Issue) (o o' : Origin)
    (h : issue.rule.name ∉ originRules) : issue.message o = issue.message o' := by
  obtain ⟨rule, location, input⟩ := issue
  cases rule with
  | list | mapping | document _ => exact absurd (by simp [originRules, Rule.name]) h
  | missing | text | utf8 | json _ => rfl

/-- Two outcomes of loading that differ in the origin of the input only: the same document, the same
error, or the same issues, with the same wording unless it is after the origin. -/
inductive SameOutcome : Except LoadFailure Document → Except LoadFailure Document → Prop
  | loaded (d : Document) : SameOutcome (.ok d) (.ok d)
  | unparsable (o o' : Origin) (issues : List Issue)
    (hwording : ∀ i ∈ issues, i.rule.name ∉ originRules → i.message o = i.message o') :
    SameOutcome (.error (.unparsable o issues)) (.error (.unparsable o' issues))
  | rejected (e : ValidationError) : SameOutcome (.error (.rejected e)) (.error (.rejected e))

/-- **A text and the value that it spells are loaded alike**, unless the value is a text, which
would be read as JSON again. -/
theorem load_text_sameOutcome (model : Model) {s : String} {v : Value}
    (hread : Json.read .document (Text.Utf8.encode s.toList) = .ok v) (hv : v.kind ≠ .string) :
    SameOutcome (load model (.string s)) (load model v) := by
  have hjson := Json.read_isJson hread
  have htext : parse model (.string s) = fromMapping model .mapping v := by
    simp only [parse, textBytes, fromJson, hread, fromMapping_origin model hjson]
  have hvalue : parse model v = fromMapping model .mapping v := by
    cases hjson with
    | string s => exact absurd rfl hv
    | _ => rfl
  unfold load
  rw [htext, hvalue]
  cases fromMapping model .mapping v with
  | error issues => exact .unparsable _ _ issues fun i _ hi => i.message_origin _ _ hi
  | ok d =>
    simp only [d.ofVerdict_eq]
    cases d.complaint? with
    | none => exact .loaded d
    | some m => exact .rejected _

theorem load_text_sameOutcome_type :
    Json.read .document (Text.Utf8.encode "\x7b\"type\": [null]\x7d".toList) =
        .ok (.dict (textEntries [("type", .list [.null])])) ∧
      SameOutcome (load .credentialDefinition (.string "\x7b\"type\": [null]\x7d"))
        (load .credentialDefinition (.dict (textEntries [("type", .list [.null])]))) := by
  have hfits : Json.Fits 4300 201 (.dict (textEntries [("type", .list [.null])])) := by
    refine .dict (by decide) fun e he => ?_
    rw [List.mem_singleton.1 he]
    refine .list fun v hv => ?_
    rw [List.mem_singleton.1 hv]
    exact .null
  obtain ⟨text, hwrite, htext⟩ :=
    Json.exists_write?_wholeText .usual (show Json.Fits Json.Limits.document.digits _ _ from hfits)
  have heq : Json.write? .usual 0 (.dict (textEntries [("type", .list [.null])])) =
      some "\x7b\"type\": [null]\x7d".toList := by decide +kernel
  cases Option.some.inj (hwrite.symm.trans heq)
  have hread := Json.read_complete htext
  exact ⟨hread, load_text_sameOutcome .credentialDefinition hread (by decide)⟩

end CredentialCheck
