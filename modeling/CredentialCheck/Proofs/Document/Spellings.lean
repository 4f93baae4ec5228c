import CredentialCheck.Proofs.Document.Complaint
import CredentialCheck.Proofs.Document.Issues
import CredentialCheck.Proofs.Value.TextKeys
import Mathlib.Data.List.Forall2

/-!
# What loading looks up

A document is read from the values that its fields resolve to, and from nothing else of a
dictionary: not the order of its entries, not what stands under other names, and not a second
spelling that the first one hides. Two dictionaries that resolve alike lead to the same outcome, but
for the spelling of a field in the place of an issue.

* `Key.resolved?` is the value that a field resolves to.
* `SameButSpelling` compares two outcomes.
* `Model.spelled` writes the fields of a dictionary in spellings of one's choice.
* `load_resolved` is the statement.
-/

namespace CredentialCheck

open Document

namespace Document

/-! ## Values by two names -/

/-- The spellings of a field. -/
def Key.spellings (key : Key) : List String := [key.camel, key.snake]

/-- The value of a field: the one in camel case, else the one in snake case, if there is either. -/
def Key.resolved? (key : Key) (entries : List (Value × Value)) : Option Value :=
  (Value.lookup? entries (.string key.camel)).or (Value.lookup? entries (.string key.snake))

/-- What is found is the value that the field resolves to, under one of its spellings. -/
theorem Key.exists_find?_eq (key : Key) (entries : List (Value × Value)) :
    ∃ s ∈ key.spellings, key.find? entries = (key.resolved? entries).map (s, ·) := by
  unfold Key.find? Key.resolved?
  cases Value.lookup? entries (.string key.camel) with
  | some v => exact ⟨key.camel, by simp [Key.spellings], rfl⟩
  | none => exact ⟨key.snake, by simp [Key.spellings], rfl⟩

/-! ## Results do not depend on places -/

section

variable {α β : Type}

theorem toOption_both (a : Reading α) (b : Reading β) :
    (a.both b).toOption = a.toOption.bind fun x => b.toOption.map fun y => (x, y) := by
  cases a <;> cases b <;> rfl

theorem toOption_map (a : Reading α) (f : α → β) :
    Except.toOption (a.map f) = a.toOption.map f := by
  cases a <;> rfl

end

section

variable (origin : Origin) (location location' : List Step)

theorem toOption_readText (v : Value) :
    (readText origin location v).toOption = (readText origin location' v).toOption := by
  have hbytes (bs : List UInt8) :
      (readBytes location v bs).toOption = (readBytes location' v bs).toOption := by
    unfold readBytes
    cases Text.Utf8.decode? bs <;> rfl
  cases origin with
  | json => cases v <;> rfl
  | mapping =>
    cases v with
    | bytes bs | byteArray bs => exact hbytes bs
    | _ => rfl

theorem toOption_readEach (index : Nat) (vs : List Value) :
    (readEach origin location index vs).toOption =
      (readEach origin location' index vs).toOption := by
  induction vs generalizing index with
  | nil => rfl
  | cons v vs ih =>
    rw [readEach, readEach, toOption_map, toOption_map, toOption_both, toOption_both,
      ih (index + 1), toOption_readText origin _ (location' ++ [.number index])]

theorem toOption_readTexts (v : Value) :
    (readTexts origin location v).toOption = (readTexts origin location' v).toOption := by
  cases origin with
  | json =>
    cases v with
    | list items => exact toOption_readEach .json location location' 0 items
    | _ => rfl
  | mapping =>
    cases v with
    | list items | tuple items | set items =>
      exact toOption_readEach .mapping location location' 0 items
    | _ => rfl

theorem toOption_readKeys (entries : List (Value × Value)) :
    (readKeys origin location entries).toOption =
      (readKeys origin location' entries).toOption := by
  induction entries with
  | nil => rfl
  | cons e es ih =>
    rw [readKeys, readKeys, toOption_map, toOption_map, toOption_both, toOption_both, ih,
      toOption_readText origin _ (location' ++ [keyStep e.1, .name "[key]"])]

theorem toOption_readMapping (v : Value) :
    (readMapping origin location v).toOption = (readMapping origin location' v).toOption := by
  cases v with
  | dict entries =>
    simp only [readMapping, toOption_map, toOption_readKeys origin location location']
  | _ => rfl

end

/-- Fields that resolve alike have the same result. -/
theorem Key.toOption_read {α : Type} {key : Key} {a b : List (Value × Value)}
    (h : key.resolved? a = key.resolved? b) (default? : Option α)
    {reader : List Step → Value → Reading α}
    (hreader : ∀ location location' v,
      (reader location v).toOption = (reader location' v).toOption) :
    (key.read a default? reader).toOption = (key.read b default? reader).toOption := by
  obtain ⟨s, -, ha⟩ := key.exists_find?_eq a
  obtain ⟨s', -, hb⟩ := key.exists_find?_eq b
  unfold Key.read
  rw [ha, hb, h]
  cases key.resolved? b with
  | some v => exact hreader _ _ v
  | none => cases default? <;> rfl

theorem toOption_readFields {model : Model} {a b : List (Value × Value)}
    (h : ∀ f ∈ model.fields, f.key.resolved? a = f.key.resolved? b) (origin : Origin) :
    (model.readFields origin a).toOption = (model.readFields origin b).toOption := by
  have htext {key : Key} (default? : Option String) (hkey : key.resolved? a = key.resolved? b) :=
    Key.toOption_read hkey default? (toOption_readText origin)
  cases model with
  | schema =>
    simp only [Model.fields, List.forall_mem_cons] at h
    obtain ⟨hissuer, hname, hversion, hnames, -⟩ := h
    have hlist := Key.toOption_read hnames (some []) (toOption_readTexts origin)
    simp only [Model.readFields, readSchema, toOption_map, toOption_both, htext none hissuer,
      htext none hname, htext none hversion, hlist]
  | credentialDefinition =>
    simp only [Model.fields, List.forall_mem_cons] at h
    obtain ⟨hschema, hissuer, htag, htype, hvalue, -⟩ := h
    have hmapping := Key.toOption_read hvalue (some []) (toOption_readMapping origin)
    simp only [Model.readFields, readCredentialDefinition, toOption_map, toOption_both,
      htext none hschema, htext none hissuer, htext none htag, htext (some signatureType) htype,
      hmapping]

/-! ## Notices up to spelling -/

/-- The notice at a place inside another one. -/
def Notice.under (location : List Step) (n : Notice) : Notice :=
  { n with location := location ++ n.location }

theorem textNotice_under (location rest : List Step) (v : Value) :
    textNotice (location ++ rest) v = (textNotice rest v).under location := by
  unfold textNotice
  split <;> rfl

/-- The place of a value goes into its notices as their beginning. -/
theorem Shape.notices_under (shape : Shape) (location : List Step) (v : Value) :
    shape.notices location v = (shape.notices [] v).map (Notice.under location) := by
  have htext := textNotice_under location [] v
  rw [List.append_nil] at htext
  cases shape with
  | text => by_cases h : v.PassesForText <;> simp [Shape.notices, h, htext]
  | texts =>
    cases hitems : v.items? with
    | none => simp [Shape.notices, hitems, Notice.under]
    | some items => simp [Shape.notices, hitems, textNotice_under location [_]]
  | mapping =>
    cases v with
    | dict entries => simp [Shape.notices, textNotice_under location [_, _]]
    | _ => simp [Shape.notices, Notice.under]

/-- Two notices that differ in the spelling of a field only. -/
structure Notice.Respelled (model : Model) (n m : Notice) : Prop where
  type_eq : n.type = m.type
  message_eq : n.message = m.message
  exists_location : ∃ f ∈ model.fields, ∃ s ∈ f.key.spellings, ∃ s' ∈ f.key.spellings, ∃ rest,
    n.location = .name s :: rest ∧ m.location = .name s' :: rest

/-- The notices about a field that resolves alike. -/
theorem Field.forall₂_noticesIn {model : Model} {f : Field} (hf : f ∈ model.fields)
    {a b : List (Value × Value)} (h : f.key.resolved? a = f.key.resolved? b) :
    List.Forall₂ (Notice.Respelled model) (f.noticesIn a) (f.noticesIn b) := by
  obtain ⟨s, hs, ha⟩ := f.key.exists_find?_eq a
  obtain ⟨s', hs', hb⟩ := f.key.exists_find?_eq b
  rw [Field.noticesIn, Field.noticesIn, ha, hb, h]
  cases f.key.resolved? b with
  | some v =>
    show List.Forall₂ _ (f.shape.notices [.name s] v) (f.shape.notices [.name s'] v)
    rw [f.shape.notices_under [.name s], f.shape.notices_under [.name s'],
      List.forall₂_map_left_iff, List.forall₂_map_right_iff, List.forall₂_same]
    exact fun n _ => ⟨rfl, rfl, f, hf, s, hs, s', hs', n.location, rfl, rfl⟩
  | none =>
    refine List.forall₂_same.2 fun n hn => ⟨rfl, rfl, f, hf, ?_⟩
    have hcamel : f.key.camel ∈ f.key.spellings := by simp [Key.spellings]
    refine ⟨_, hcamel, _, hcamel, [], ?_⟩
    simp only [Option.map_none, Field.notices] at hn
    split at hn
    · rw [List.mem_singleton.1 hn]
      exact ⟨rfl, rfl⟩
    · cases hn

theorem Model.forall₂_noticesIn {model : Model} {a b : List (Value × Value)}
    (h : ∀ f ∈ model.fields, f.key.resolved? a = f.key.resolved? b) :
    List.Forall₂ (Notice.Respelled model) (model.noticesIn a) (model.noticesIn b) := by
  have hfields : List.Forall₂ (fun f g => f = g ∧ f ∈ model.fields) model.fields model.fields :=
    List.forall₂_same.2 fun f hf => ⟨rfl, hf⟩
  refine List.rel_flatMap hfields ?_
  rintro f _ ⟨rfl, hf⟩
  exact Field.forall₂_noticesIn hf (h f hf)

/-! ## Fields in a chosen spelling -/

/-- The fields that are found in a dictionary, in camel case or in snake case as one chooses for
each. -/
def spelledFields (isCamel : Field → Bool) (entries : List (Value × Value)) (fields : List Field) :
    List (String × Value) :=
  fields.filterMap fun f => (f.key.resolved? entries).map fun v =>
    (if isCamel f then f.key.camel else f.key.snake, v)

/-- The fields of a document that are found in a dictionary, each in the spelling chosen for it. -/
def Model.spelled (model : Model) (isCamel : Field → Bool) (entries : List (Value × Value)) :
    List (String × Value) :=
  spelledFields isCamel entries model.fields

/-- No spelling of the one field is a spelling of the other. -/
def Field.Apart (f g : Field) : Prop := ∀ s ∈ f.key.spellings, s ∉ g.key.spellings

theorem Model.pairwise_fields (model : Model) : model.fields.Pairwise Field.Apart := by
  unfold Field.Apart
  cases model <;> decide

section

variable (isCamel : Field → Bool) (entries : List (Value × Value))

theorem spelledFields_cons (f : Field) (fields : List Field) :
    spelledFields isCamel entries (f :: fields) =
      match f.key.resolved? entries with
      | none => spelledFields isCamel entries fields
      | some v => (if isCamel f then f.key.camel else f.key.snake, v) ::
          spelledFields isCamel entries fields := by
  unfold spelledFields
  cases h : f.key.resolved? entries <;> simp [h]

theorem chosen_mem_spellings (f : Field) :
    (if isCamel f then f.key.camel else f.key.snake) ∈ f.key.spellings := by
  split <;> simp [Key.spellings]

theorem lookup_spelledFields {s : String} {fields : List Field}
    (h : ∀ f ∈ fields, s ∉ f.key.spellings) :
    (spelledFields isCamel entries fields).lookup s = none := by
  induction fields with
  | nil => rfl
  | cons f fields ih =>
    have hrest := ih fun g hg => h g (List.mem_cons_of_mem f hg)
    have hne : s ≠ if isCamel f then f.key.camel else f.key.snake := by
      rintro rfl
      exact h f List.mem_cons_self (chosen_mem_spellings isCamel f)
    rw [spelledFields_cons]
    cases f.key.resolved? entries with
    | none => exact hrest
    | some v => rw [List.lookup_cons, beq_false_of_ne hne, hrest]

theorem Key.resolved?_textEntries (key : Key) (es : List (String × Value)) :
    key.resolved? (textEntries es) = (es.lookup key.camel).or (es.lookup key.snake) := by
  simp only [Key.resolved?, lookup?_textEntries]

/-- The fields resolve to the same values in the spellings that were chosen. -/
theorem resolved?_spelledFields {fields : List Field} (hfields : fields.Pairwise Field.Apart)
    {f : Field} (hf : f ∈ fields) :
    f.key.resolved? (textEntries (spelledFields isCamel entries fields)) =
      f.key.resolved? entries := by
  rw [Key.resolved?_textEntries]
  induction fields with
  | nil => cases hf
  | cons g fields ih =>
    obtain ⟨hg, hrest⟩ := List.pairwise_cons.1 hfields
    rw [spelledFields_cons]
    rcases List.mem_cons.1 hf with rfl | hmem
    · have hcamel := lookup_spelledFields isCamel entries (s := f.key.camel) fun g' hg' =>
        hg g' hg' _ (by simp [Key.spellings])
      have hsnake := lookup_spelledFields isCamel entries (s := f.key.snake) fun g' hg' =>
        hg g' hg' _ (by simp [Key.spellings])
      cases f.key.resolved? entries with
      | none => simp [hcamel, hsnake]
      | some v =>
        cases isCamel f with
        | true => simp
        | false =>
          -- the two spellings may be one and the same
          simp only [Bool.false_eq_true, if_false, List.lookup_cons, hcamel, beq_self_eq_true]
          cases f.key.camel == f.key.snake <;> rfl
    · -- the field in front has been written under a name that is not looked up
      have hother {s : String} (hs : s ∈ f.key.spellings) :
          s ≠ if isCamel g then g.key.camel else g.key.snake := by
        rintro rfl
        exact hg f hmem _ (chosen_mem_spellings isCamel g) hs
      have hcamel := beq_false_of_ne (hother (s := f.key.camel) (by simp [Key.spellings]))
      have hsnake := beq_false_of_ne (hother (s := f.key.snake) (by simp [Key.spellings]))
      cases g.key.resolved? entries with
      | none => exact ih hrest hmem
      | some v =>
        simp only [List.lookup_cons, hcamel, hsnake]
        exact ih hrest hmem

end

end Document

/-! ## Loading -/

/-- Two outcomes of loading that differ in the spelling of fields in the places of issues only. -/
inductive SameButSpelling (model : Model) :
    Except LoadFailure Document → Except LoadFailure Document → Prop
  | loaded (d : Document) : SameButSpelling model (.ok d) (.ok d)
  | rejected (e : ValidationError) :
    SameButSpelling model (.error (.rejected e)) (.error (.rejected e))
  | unparsable {issues issues' : List Issue}
    (h : List.Forall₂ (Notice.Respelled model) (issues.map (Issue.notice .mapping))
      (issues'.map (Issue.notice .mapping))) :
    SameButSpelling model (.error (.unparsable .mapping issues))
      (.error (.unparsable .mapping issues'))

theorem sameButSpelling_of_resolved {model : Model} {a b : List (Value × Value)}
    (h : ∀ f ∈ model.fields, f.key.resolved? a = f.key.resolved? b) :
    SameButSpelling model (load model (.dict a)) (load model (.dict b)) := by
  have hparse : (parse model (.dict a)).toOption = (parse model (.dict b)).toOption :=
    toOption_readFields h .mapping
  have hnotices := Model.forall₂_noticesIn h
  rcases load_dict_cases model a with ⟨d, ha, -, hload⟩ | ⟨issues, ha, -, hissues, hload⟩ <;>
    rcases load_dict_cases model b with ⟨d', hb, -, hload'⟩ | ⟨issues', hb, -, hissues', hload'⟩ <;>
    rw [ha, hb] at hparse
  · obtain rfl := Option.some.inj hparse
    rw [hload, hload', d.ofVerdict_eq]
    cases d.complaint? with
    | none => exact .loaded d
    | some m => exact .rejected _
  · cases hparse
  · cases hparse
  · rw [hissues, hissues'] at hnotices
    rw [hload, hload']
    exact .unparsable hnotices

/-- **Only the values that the fields resolve to matter.** Two dictionaries in which every field of
the document resolves alike are loaded alike: to the same document, to the same verdict, or to
issues of the same sorts and wordings in the same order, at places that differ at most in the
spelling of the field. So a dictionary may be written anew in either spelling, chosen for each
field. -/
theorem load_resolved (model : Model) {a b : List (Value × Value)}
    (h : ∀ f ∈ model.fields, f.key.resolved? a = f.key.resolved? b) :
    SameButSpelling model (load model (.dict a)) (load model (.dict b)) ∧
      ∀ isCamel : Field → Bool, SameButSpelling model (load model (.dict a))
        (load model (.dict (textEntries (model.spelled isCamel a)))) :=
  ⟨sameButSpelling_of_resolved h, fun isCamel => sameButSpelling_of_resolved fun _ hf =>
    (resolved?_spelledFields isCamel a model.pairwise_fields hf).symm⟩

/-- A schema in camel case, beside other spellings and names that nobody reads. -/
def crowdedEntries : List (Value × Value) :=
  [(.integer 7, .null), (.string "issuer_id", .integer 5), (.string "issuerId", .string "a:b"),
    (.string "attrNames", .list [.null]), (.string "version", .string "1"),
    (.string "attr_names", .string "a"), (.bytes [0x61], .list [])]

/-- The same in snake case and in another order. -/
def plainEntries : List (Value × Value) :=
  [(.string "version", .string "1"), (.string "attr_names", .list [.null]),
    (.string "issuer_id", .string "a:b")]

theorem load_resolved_crowded :
    (∀ f ∈ Model.schema.fields, f.key.resolved? crowdedEntries = f.key.resolved? plainEntries) ∧
      SameButSpelling .schema (load .schema (.dict crowdedEntries))
        (load .schema (.dict plainEntries)) := by
  have hresolved : ∀ f ∈ Model.schema.fields,
      f.key.resolved? crowdedEntries = f.key.resolved? plainEntries := by
    simp [Model.fields, Key.resolved?, Value.lookup?, Value.equal, issuerIdKey, attrNamesKey,
      plainKey, crowdedEntries, plainEntries]
  exact ⟨hresolved, (load_resolved .schema hresolved).1⟩

end CredentialCheck
