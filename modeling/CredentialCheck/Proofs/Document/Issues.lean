import CredentialCheck.Document.Report
import CredentialCheck.Proofs.Text.Decoding
import Mathlib.Data.List.Basic

/-!
# The issues of a dictionary

What loading a dictionary reports, field by field. Each field of a document has its own block of
notices, which depends on nothing but what is found under its name, and the blocks stand in the
order of the fields. A block is empty just if the value found is acceptable, or if nothing is found
and the field has a default. So no fault hides another one, in a list or among the fields.

* `Model.fields` are the fields of a document, and `Shape.Accepts` says which values they take.
* `Field.notices` is the block of a field.
* `Reading.Finds` relates a reading to its notices; there is a lemma for each reader.
* `load_dict_notices` is the statement about loading.
-/

namespace CredentialCheck

open Document

/-! ## Texts and bytes that pass for them -/

/-- Whether a value passes for a text: a text does, and so do bytes that are UTF-8. -/
def Value.PassesForText : Value → Prop
  | .string _ => True
  | .bytes bs | .byteArray bs => ∃ s, bs = Text.Utf8.encode s
  | _ => False

theorem isSome_decode?_iff (bs : List UInt8) :
    (Text.Utf8.decode? bs).isSome = true ↔ ∃ s, bs = Text.Utf8.encode s := by
  simp only [Option.isSome_iff_exists, Text.Utf8.decode?, ← Text.Utf8.decode_eq_ok_iff]
  refine exists_congr fun s => ?_
  cases Text.Utf8.decode bs <;> simp [Except.toOption]

instance : DecidablePred Value.PassesForText := fun v =>
  match v with
  | .string _ => .isTrue trivial
  | .bytes bs | .byteArray bs => decidable_of_iff _ (isSome_decode?_iff bs)
  | .null | .bool _ | .integer _ | .float _ | .tuple _ | .set _ | .list _ | .dict _ => .isFalse id

/-- The elements of a value that passes for a list. -/
def Value.items? : Value → Option (List Value)
  | .list items | .tuple items | .set items => some items
  | _ => none

namespace Document

/-! ## Notices -/

/-- What is shown of an issue: the name of the rule, the place, and the wording. -/
structure Notice where
  type : String
  location : List Step
  message : String
  deriving DecidableEq, Repr

/-- What is shown of an issue. -/
def Issue.notice (origin : Origin) (issue : Issue) : Notice :=
  ⟨issue.rule.name, issue.location, issue.message origin⟩

/-- The notice about a value that does not pass for a text. -/
def textNotice (location : List Step) : Value → Notice
  | .bytes _ | .byteArray _ =>
    ⟨"string_unicode", location,
      "Input should be a valid string, unable to parse raw data as a unicode string"⟩
  | _ => ⟨"string_type", location, "Input should be a valid string"⟩

/-! ## Fields -/

/-- What the value of a field has to be. -/
inductive Shape
  | text
  /-- A list of texts. -/
  | texts
  /-- A dictionary with texts as keys. -/
  | mapping
  deriving DecidableEq, Repr

/-- A field of a document. -/
structure Field where
  key : Key
  shape : Shape
  /-- The field has no default. -/
  isRequired : Bool
  deriving DecidableEq, Repr

/-- The fields of a document in their order. -/
def Model.fields : Model → List Field
  | .schema =>
    [⟨issuerIdKey, .text, true⟩, ⟨plainKey "name", .text, true⟩, ⟨plainKey "version", .text, true⟩,
      ⟨attrNamesKey, .texts, false⟩]
  | .credentialDefinition =>
    [⟨schemaIdKey, .text, true⟩, ⟨issuerIdKey, .text, true⟩, ⟨plainKey "tag", .text, true⟩,
      ⟨plainKey "type", .text, false⟩, ⟨plainKey "value", .mapping, false⟩]

/-- Whether a value has the shape. -/
def Shape.Accepts : Shape → Value → Prop
  | .text, v => v.PassesForText
  | .texts, v => ∃ items, v.items? = some items ∧ ∀ item ∈ items, item.PassesForText
  | .mapping, v => ∃ entries, v = .dict entries ∧ ∀ e ∈ entries, e.1.PassesForText

/-- Whether what is found under the name of a field will do. -/
def Field.Admits (f : Field) : Option (String × Value) → Prop
  | some (_, v) => f.shape.Accepts v
  | none => f.isRequired = false

/-- The notices about a value at a place. -/
def Shape.notices (location : List Step) : Shape → Value → List Notice
  | .text, v => if v.PassesForText then [] else [textNotice location v]
  | .texts, v =>
    match v.items? with
    | some items =>
      (items.zipIdx.filter fun p => ¬ p.1.PassesForText).map fun p =>
        textNotice (location ++ [.number p.2]) p.1
    | none => [⟨"list_type", location, "Input should be a valid list"⟩]
  | .mapping, .dict entries =>
    (entries.filter fun e => ¬ e.1.PassesForText).map fun e =>
      textNotice (location ++ [keyStep e.1, .name "[key]"]) e.1
  | .mapping, _ => [⟨"dict_type", location, "Input should be a valid dictionary"⟩]

/-- The notice about a field that is not there. -/
def Field.missing (f : Field) : Notice := ⟨"missing", [.name f.key.camel], "Field required"⟩

/-- The notices about a field, by what is found under its name. -/
def Field.notices (f : Field) : Option (String × Value) → List Notice
  | some (spelling, v) => f.shape.notices [.name spelling] v
  | none => if f.isRequired then [f.missing] else []

/-- The notices about a field of a dictionary. -/
def Field.noticesIn (f : Field) (entries : List (Value × Value)) : List Notice :=
  f.notices (f.key.find? entries)

/-- The notices about all fields of a dictionary, in their order. -/
def Model.noticesIn (model : Model) (entries : List (Value × Value)) : List Notice :=
  model.fields.flatMap (·.noticesIn entries)

/-! ## What a reading finds -/

/-- The notices of a reading: it has a result if there are none, and fails with all of them
otherwise. -/
inductive Reading.Finds {α : Type} : Reading α → List Notice → Prop
  | nothing (x : α) : Finds (.ok x) []
  | issues {l : List Issue} (h : l ≠ []) : Finds (.error l) (l.map (Issue.notice .mapping))

section

variable {α β : Type}

theorem finds_issueAt (rule : Rule) (location : List Step) (input : Value) :
    (issueAt rule location input : Reading α).Finds
      [⟨rule.name, location, Issue.message .mapping ⟨rule, location, input⟩⟩] :=
  .issues (List.cons_ne_nil _ _)

theorem Reading.Finds.cast {r : Reading α} {l m : List Notice} (h : r.Finds l) (heq : l = m) :
    r.Finds m := heq ▸ h

theorem Reading.Finds.both {a : Reading α} {b : Reading β} {l m : List Notice} (ha : a.Finds l)
    (hb : b.Finds m) : (a.both b).Finds (l ++ m) := by
  cases ha with
  | nothing x =>
    cases hb with
    | nothing y => exact .nothing (x, y)
    | issues hm => exact .issues hm
  | issues hl =>
    cases hb with
    | nothing y =>
      rw [List.append_nil]
      exact .issues hl
    | issues hm =>
      rw [← List.map_append]
      exact .issues (by simp [hl])

theorem Reading.Finds.map {r : Reading α} {l : List Notice} (h : r.Finds l) (f : α → β) :
    Reading.Finds (r.map f) l := by
  cases h with
  | nothing x => exact .nothing (f x)
  | issues hl => exact .issues hl

end

/-! ## Readers -/

section

variable (location : List Step)

theorem finds_readBytes {v : Value} {bs : List UInt8}
    (hpasses : v.PassesForText ↔ ∃ s, bs = Text.Utf8.encode s)
    (hnotice : textNotice location v = (⟨.utf8, location, v⟩ : Issue).notice .mapping) :
    (readBytes location v bs).Finds
      (if v.PassesForText then [] else [textNotice location v]) := by
  rw [← isSome_decode?_iff] at hpasses
  unfold readBytes
  cases hdecode : Text.Utf8.decode? bs with
  | some s =>
    rw [if_pos (hpasses.2 (by rw [hdecode]; rfl))]
    exact .nothing _
  | none =>
    rw [if_neg fun h => by simpa [hdecode] using hpasses.1 h, hnotice]
    exact finds_issueAt .utf8 location v

theorem finds_readText (v : Value) :
    (readText .mapping location v).Finds
      (if v.PassesForText then [] else [textNotice location v]) := by
  cases v with
  | string s => exact .nothing s
  | bytes bs | byteArray bs => exact finds_readBytes location Iff.rfl rfl
  | null | bool b | integer n | float x | tuple vs | set vs | list vs | dict es =>
    exact finds_issueAt .text location _

theorem finds_readEach (index : Nat) (vs : List Value) :
    (readEach .mapping location index vs).Finds
      (((vs.zipIdx index).filter fun p => ¬ p.1.PassesForText).map fun p =>
        textNotice (location ++ [.number p.2]) p.1) := by
  induction vs generalizing index with
  | nil => exact .nothing []
  | cons v vs ih =>
    have hboth := (finds_readText (location ++ [.number index]) v).both (ih (index + 1))
    refine (hboth.map _).cast ?_
    rw [List.zipIdx_cons]
    by_cases h : v.PassesForText <;> simp [h]

theorem finds_readTexts (v : Value) :
    (readTexts .mapping location v).Finds (Shape.texts.notices location v) := by
  cases v with
  | list items | tuple items | set items => exact finds_readEach location 0 items
  | null | bool b | integer n | float x | string s | bytes bs | byteArray bs | dict es =>
    exact finds_issueAt .list location _

theorem finds_readKeys (entries : List (Value × Value)) :
    (readKeys .mapping location entries).Finds
      ((entries.filter fun e => ¬ e.1.PassesForText).map fun e =>
        textNotice (location ++ [keyStep e.1, .name "[key]"]) e.1) := by
  induction entries with
  | nil => exact .nothing []
  | cons e es ih =>
    have hboth := (finds_readText (location ++ [keyStep e.1, .name "[key]"]) e.1).both ih
    refine (hboth.map _).cast ?_
    by_cases h : e.1.PassesForText <;> simp [h]

theorem finds_readMapping (v : Value) :
    (readMapping .mapping location v).Finds (Shape.mapping.notices location v) := by
  cases v with
  | dict entries => exact (finds_readKeys location entries).map _
  | _ => exact finds_issueAt .mapping location _

end

/-! ## Fields by name -/

/-- An entry under another name is not looked at. -/
theorem Key.find?_cons_of_ne {key : Key} {s : String} (hcamel : key.camel ≠ s)
    (hsnake : key.snake ≠ s) (v : Value) (entries : List (Value × Value)) :
    key.find? ((.string s, v) :: entries) = key.find? entries := by
  have hlookup {name : String} (hname : name ≠ s) :
      Value.lookup? ((.string s, v) :: entries) (.string name) =
        Value.lookup? entries (.string name) := by
    simp [Value.lookup?, Value.equal, hname]
  simp only [Key.find?, hlookup hcamel, hlookup hsnake]

/-- A field is read by a reader of its shape. -/
theorem Key.finds_read {α : Type} (key : Key) {shape : Shape} (entries : List (Value × Value))
    (default? : Option α) {reader : List Step → Value → Reading α}
    (hreader : ∀ location v, (reader location v).Finds (shape.notices location v)) :
    (key.read entries default? reader).Finds
      (Field.noticesIn ⟨key, shape, default?.isNone⟩ entries) := by
  unfold Key.read Field.noticesIn
  cases key.find? entries with
  | some found => exact hreader _ _
  | none =>
    cases default? with
    | some x => exact .nothing x
    | none => exact finds_issueAt .missing _ _

/-- **The notices of a document are those of its fields, in their order.** -/
theorem finds_readFields (model : Model) (entries : List (Value × Value)) :
    (model.readFields .mapping entries).Finds (model.noticesIn entries) := by
  have htext (key : Key) (default? : Option String) :
      (key.read entries default? (readText .mapping)).Finds
        (Field.noticesIn ⟨key, .text, default?.isNone⟩ entries) :=
    key.finds_read entries default? finds_readText
  cases model with
  | schema =>
    have hnames := attrNamesKey.finds_read entries (some []) finds_readTexts
    have hboth := (htext issuerIdKey none).both ((htext (plainKey "name") none).both
      ((htext (plainKey "version") none).both hnames))
    exact ((hboth.map _).map _).cast (by simp [Model.noticesIn, Model.fields])
  | credentialDefinition =>
    have hvalue := (plainKey "value").finds_read entries (some []) finds_readMapping
    have hboth := (htext schemaIdKey none).both ((htext issuerIdKey none).both
      ((htext (plainKey "tag") none).both ((htext (plainKey "type") (some signatureType)).both
        hvalue)))
    exact ((hboth.map _).map _).cast (by simp [Model.noticesIn, Model.fields])

/-! ## The block of a field -/

theorem filter_zipIdx_eq_nil_iff (items : List Value) :
    (items.zipIdx.filter fun p => ¬ p.1.PassesForText) = [] ↔
      ∀ item ∈ items, item.PassesForText := by
  have hitems : items.zipIdx.map Prod.fst = items := List.zipIdx_map_fst 0 items
  rw [← hitems, List.forall_mem_map, hitems]
  simp [List.filter_eq_nil_iff]

theorem Shape.notices_eq_nil_iff (shape : Shape) (location : List Step) (v : Value) :
    shape.notices location v = [] ↔ shape.Accepts v := by
  cases shape with
  | text => by_cases h : v.PassesForText <;> simp [Shape.notices, Shape.Accepts, h]
  | texts =>
    cases hitems : v.items? with
    | none => simp [Shape.notices, Shape.Accepts, hitems]
    | some items =>
      simp only [Shape.notices, Shape.Accepts, hitems, List.map_eq_nil_iff, Option.some.injEq,
        exists_eq_left']
      exact filter_zipIdx_eq_nil_iff items
  | mapping =>
    cases v with
    | dict entries => simp [Shape.notices, Shape.Accepts]
    | _ => simp [Shape.notices, Shape.Accepts]

theorem location_textNotice (location : List Step) (v : Value) :
    (textNotice location v).location = location := by
  unfold textNotice
  split <;> rfl

theorem type_textNotice_ne_missing (location : List Step) (v : Value) :
    (textNotice location v).type ≠ "missing" := by
  unfold textNotice
  split <;> simp

/-- No value makes a field missing. -/
theorem Shape.type_ne_missing {shape : Shape} {location : List Step} {v : Value} {n : Notice}
    (h : n ∈ shape.notices location v) : n.type ≠ "missing" := by
  unfold Shape.notices at h
  split at h
  · split at h
    · cases h
    · rw [List.mem_singleton.1 h]
      exact type_textNotice_ne_missing _ _
  · split at h
    · obtain ⟨p, -, rfl⟩ := List.mem_map.1 h
      exact type_textNotice_ne_missing _ _
    · rw [List.mem_singleton.1 h]
      simp
  · obtain ⟨e, -, rfl⟩ := List.mem_map.1 h
    exact type_textNotice_ne_missing _ _
  · rw [List.mem_singleton.1 h]
    simp

theorem Field.notices_eq_nil_iff (f : Field) (found : Option (String × Value)) :
    f.notices found = [] ↔ f.Admits found := by
  cases found with
  | some found => exact f.shape.notices_eq_nil_iff _ _
  | none => cases h : f.isRequired <;> simp [Field.notices, Field.Admits, h]

theorem Field.notices_eq_missing_iff (f : Field) (found : Option (String × Value)) :
    f.notices found = [f.missing] ↔ found = none ∧ f.isRequired = true := by
  cases found with
  | some found =>
    refine iff_of_false (fun h => ?_) (by simp)
    have hmem : f.missing ∈ f.notices (some found) := h ▸ List.mem_singleton_self _
    exact Shape.type_ne_missing hmem rfl
  | none => cases h : f.isRequired <;> simp [Field.notices, h]

/-- The fields of a document differ. -/
theorem Model.nodup_fields (model : Model) : model.fields.Nodup := by
  cases model <;> decide

/-- The notices about one field stand between those about the others. -/
theorem Model.noticesIn_split {model : Model} {f : Field} (hf : f ∈ model.fields)
    {entries other : List (Value × Value)}
    (h : ∀ g ∈ model.fields, g ≠ f → g.key.find? other = g.key.find? entries) :
    ∃ before behind, model.noticesIn entries = before ++ f.noticesIn entries ++ behind ∧
      model.noticesIn other = before ++ f.noticesIn other ++ behind := by
  obtain ⟨first, rest, hsplit⟩ := List.append_of_mem hf
  have hnodup := model.nodup_fields
  rw [hsplit, List.nodup_append, List.nodup_cons] at hnodup
  have hsame (fields : List Field) (hfields : ∀ g ∈ fields, g ∈ model.fields ∧ g ≠ f) :
      fields.flatMap (·.noticesIn other) = fields.flatMap (·.noticesIn entries) := by
    refine List.flatMap_congr fun g hg => ?_
    rw [Field.noticesIn, Field.noticesIn, h g (hfields g hg).1 (hfields g hg).2]
  have hfirst := hsame first fun g hg =>
    ⟨by simp [hsplit, hg], hnodup.2.2 g hg f List.mem_cons_self⟩
  have hrest := hsame rest fun g hg =>
    ⟨by simp [hsplit, hg], fun heq => hnodup.2.1.1 (heq ▸ hg)⟩
  refine ⟨first.flatMap (·.noticesIn entries), rest.flatMap (·.noticesIn entries), ?_, ?_⟩
  · simp [Model.noticesIn, hsplit]
  · simp [Model.noticesIn, hsplit, hfirst, hrest]

end Document

/-! ## Loading -/

/-- The notices that an attempt to load ends with. -/
def noticesOf : Except LoadFailure Document → List Notice
  | .error (.unparsable origin issues) => issues.map (Issue.notice origin)
  | _ => []

theorem noticesOf_ofVerdict (d : Document) (verdict : Verdict) :
    noticesOf (LoadFailure.ofVerdict d verdict) = [] := by
  cases verdict with
  | error m => rfl
  | ok e? => cases e? <;> rfl

/-- A dictionary is read as a document, and that is judged, if there are no notices; otherwise the
notices are what loading ends with. -/
theorem load_dict_cases (model : Model) (entries : List (Value × Value)) :
    (∃ d, parse model (.dict entries) = .ok d ∧ model.noticesIn entries = [] ∧
        load model (.dict entries) = LoadFailure.ofVerdict d d.verdict) ∨
      ∃ issues, parse model (.dict entries) = .error issues ∧ issues ≠ [] ∧
        model.noticesIn entries = issues.map (Issue.notice .mapping) ∧
        load model (.dict entries) = .error (.unparsable .mapping issues) := by
  have hparse : parse model (.dict entries) = model.readFields .mapping entries := rfl
  have hfinds := finds_readFields model entries
  rw [← hparse] at hfinds
  unfold load
  -- the notices are a variable, so that the cases of what is found can be told apart
  generalize model.noticesIn entries = notices at hfinds
  cases hread : parse model (.dict entries) with
  | ok d =>
    rw [hread] at hfinds
    cases hfinds
    exact .inl ⟨d, rfl, rfl, rfl⟩
  | error issues =>
    rw [hread] at hfinds
    cases hfinds with
    | issues hne => exact .inr ⟨issues, rfl, hne, rfl, rfl⟩

theorem noticesOf_load (model : Model) (entries : List (Value × Value)) :
    noticesOf (load model (.dict entries)) = model.noticesIn entries := by
  rcases load_dict_cases model entries with
    ⟨d, -, hnotices, hload⟩ | ⟨issues, -, -, hnotices, hload⟩
  · rw [hload, noticesOf_ofVerdict, hnotices]
  · rw [hload, hnotices]
    rfl

/-- **The issues of a dictionary are those of its fields.** What loading reports are the notices of
the fields in their order, each made of what is found under the field's own name: so if that changes
for one field, the notices on the others stay and keep their places. There are none about a field
just if its value will do, or if it is not there and has a default; and there is the one that it is
missing just if it is not there and has none. In a list each element that does not pass for a text
has one notice, by its number, and in a dictionary each such key, in the order in which they stand.
If there is no notice at all, the document is made and judged; otherwise there is none, and the
error says that it could not be read. -/
theorem load_dict_notices (model : Model) (entries : List (Value × Value)) :
    noticesOf (load model (.dict entries)) = model.fields.flatMap (·.noticesIn entries) ∧
      (∀ f ∈ model.fields, (f.noticesIn entries = [] ↔ f.Admits (f.key.find? entries)) ∧
        (f.noticesIn entries = [f.missing] ↔
          f.key.find? entries = none ∧ f.isRequired = true)) ∧
      (∀ f ∈ model.fields, ∀ spelling v, f.key.find? entries = some (spelling, v) →
        (∀ items, f.shape = .texts → v = .list items ∨ v = .tuple items →
          (f.noticesIn entries).map Notice.location =
            (items.zipIdx.filter fun p => ¬ p.1.PassesForText).map fun p =>
              [.name spelling, .number p.2]) ∧
        ∀ pairs, f.shape = .mapping → v = .dict pairs →
          (f.noticesIn entries).map Notice.location =
            (pairs.filter fun e => ¬ e.1.PassesForText).map fun e =>
              [.name spelling, keyStep e.1, .name "[key]"]) ∧
      (∀ f ∈ model.fields, ∀ other,
        (∀ g ∈ model.fields, g ≠ f → g.key.find? other = g.key.find? entries) →
        ∃ before behind,
          noticesOf (load model (.dict entries)) = before ++ f.noticesIn entries ++ behind ∧
          noticesOf (load model (.dict other)) = before ++ f.noticesIn other ++ behind) ∧
      (noticesOf (load model (.dict entries)) = [] → ∃ d, parse model (.dict entries) = .ok d ∧
        load model (.dict entries) = LoadFailure.ofVerdict d d.verdict) ∧
      (noticesOf (load model (.dict entries)) ≠ [] →
        (∀ d, parse model (.dict entries) ≠ .ok d) ∧ ∃ issues,
          load model (.dict entries) = .error (.unparsable .mapping issues) ∧
            (LoadFailure.unparsable .mapping issues).validationError model =
              ⟨.string ("Could not parse " ++ model.name ++ ": " ++
                issuesText model .mapping issues)⟩) := by
  refine ⟨noticesOf_load model entries, fun f _ =>
    ⟨f.notices_eq_nil_iff _, f.notices_eq_missing_iff _⟩, ?_, ?_, ?_, ?_⟩
  · intro f _ spelling v hfind
    have hblock : f.noticesIn entries = f.shape.notices [.name spelling] v := by
      rw [Field.noticesIn, hfind]
      rfl
    constructor
    · intro items hshape hv
      have hitems : v.items? = some items := by
        rcases hv with rfl | rfl <;> rfl
      simp [hblock, hshape, Shape.notices, hitems, location_textNotice]
    · rintro pairs hshape rfl
      simp [hblock, hshape, Shape.notices, location_textNotice]
  · intro f hf other hother
    simp only [noticesOf_load]
    exact Model.noticesIn_split hf hother
  · intro hnone
    rcases load_dict_cases model entries with ⟨d, hparse, -, hload⟩ | ⟨issues, -, hne, hnotices, -⟩
    · exact ⟨d, hparse, hload⟩
    · rw [noticesOf_load, hnotices, List.map_eq_nil_iff] at hnone
      exact absurd hnone hne
  · intro hsome
    rcases load_dict_cases model entries with ⟨d, -, hnotices, -⟩ | ⟨issues, hparse, -, -, hload⟩
    · rw [noticesOf_load] at hsome
      exact absurd hnotices hsome
    · exact ⟨fun d hd => by simp [hparse] at hd, issues, hload, rfl⟩

/-- A schema with a fault in every field; the fourth field has two. -/
def faultyEntries : List (Value × Value) :=
  [(.string "attrNames", .list [.null, .string "a", .bytes [0xff]]),
    (.string "issuer_id", .integer 5), (.null, .null),
    (.string "version", .byteArray [0x31, 0xff])]

/-- Every fault is reported, and with another issuer all others are reported as before. -/
theorem load_dict_notices_faulty :
    noticesOf (load .schema (.dict faultyEntries)) =
        [⟨"string_type", [.name "issuer_id"], "Input should be a valid string"⟩,
          ⟨"missing", [.name "name"], "Field required"⟩,
          ⟨"string_unicode", [.name "version"],
            "Input should be a valid string, unable to parse raw data as a unicode string"⟩,
          ⟨"string_type", [.name "attrNames", .number 0], "Input should be a valid string"⟩,
          ⟨"string_unicode", [.name "attrNames", .number 2],
            "Input should be a valid string, unable to parse raw data as a unicode string"⟩] ∧
      attrNamesKey.find? faultyEntries =
        some ("attrNames", .list [.null, .string "a", .bytes [0xff]]) ∧
      ((⟨attrNamesKey, .texts, false⟩ : Field).noticesIn faultyEntries).map Notice.location =
        [[.name "attrNames", .number 0], [.name "attrNames", .number 2]] ∧
      (∃ before behind, noticesOf (load .schema (.dict faultyEntries)) = before ++
          [⟨"string_type", [.name "issuer_id"], "Input should be a valid string"⟩] ++ behind ∧
        noticesOf (load .schema (.dict ((.string "issuerId", .string "a:b") :: faultyEntries))) =
          before ++ [] ++ behind) ∧
      ∀ d, parse .schema (.dict faultyEntries) ≠ .ok d := by
  obtain ⟨hnotices, -, hparts, hchange, -, hfailure⟩ := load_dict_notices .schema faultyEntries
  have hfind : attrNamesKey.find? faultyEntries =
      some ("attrNames", .list [.null, .string "a", .bytes [0xff]]) := by
    simp [Key.find?, Value.lookup?, Value.equal, attrNamesKey, faultyEntries]
  refine ⟨hnotices.trans (by decide +kernel), hfind, ?_, ?_, ?_⟩
  · rw [(hparts _ (by decide) _ _ hfind).1 _ rfl (.inl rfl)]
    decide +kernel
  · have hothers : ∀ g ∈ Model.schema.fields, g ≠ ⟨issuerIdKey, .text, true⟩ →
        g.key.find? ((.string "issuerId", .string "a:b") :: faultyEntries) =
          g.key.find? faultyEntries := by
      intro g hg hne
      simp only [Model.fields, List.mem_cons, List.not_mem_nil, or_false] at hg
      rcases hg with rfl | rfl | rfl | rfl
      · exact absurd rfl hne
      all_goals exact Key.find?_cons_of_ne (by decide) (by decide) _ _
    obtain ⟨before, behind, hbefore, hafter⟩ := hchange _ (by decide) _ hothers
    refine ⟨before, behind, hbefore.trans ?_, hafter.trans ?_⟩
    · rw [show Field.noticesIn ⟨issuerIdKey, .text, true⟩ faultyEntries =
        [⟨"string_type", [.name "issuer_id"], "Input should be a valid string"⟩] by decide +kernel]
    · rw [show Field.noticesIn ⟨issuerIdKey, .text, true⟩
        ((.string "issuerId", .string "a:b") :: faultyEntries) = [] by decide +kernel]
  · refine (hfailure ?_).1
    rw [hnotices]
    decide +kernel

end CredentialCheck
