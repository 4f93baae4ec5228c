import CredentialCheck.Proofs.Document.RoundTrip
import CredentialCheck.Proofs.Text.Decoding
import CredentialCheck.Proofs.Value.Parts

/-!
# Loading once more

A document that has been loaded is loaded again, to the same document, from the dictionary of its
fields in either spelling. Whatever passed for a text or a list in the raw input is a text or a list
of texts by now, defaults have been filled in, and of keys that came to be the same text one is
left; so nothing is converted the second time, and the rules hold as before.

* `Document.KeptFrom` says what the values of a document owe to a raw input: they are inside it.
* `parse_keptFrom`: what has been read has different keys, and its values come from the input.
* `load_dump` is the statement about loading.
-/

namespace CredentialCheck

open Document Value

/-! ## What a reading returns -/

section

variable {α β : Type}

theorem Reading.exists_of_both {a : Reading α} {b : Reading β} {p : α × β} (h : a.both b = .ok p) :
    a = .ok p.1 ∧ b = .ok p.2 := by
  unfold Reading.both at h
  cases a <;> cases b <;> cases h
  exact ⟨rfl, rfl⟩

/-- A field that has been read was found and read, or has its default. -/
theorem Document.Key.exists_of_read {key : Key} {entries : List (Value × Value)}
    {default? : Option α} {reader : List Step → Value → Reading α} {x : α}
    (h : key.read entries default? reader = .ok x) :
    (∃ location v, Inside v (.dict entries) ∧ reader location v = .ok x) ∨ default? = some x := by
  unfold Key.read at h
  split at h
  · next spelling v hfind =>
    refine .inl ⟨_, v, ?_, h⟩
    unfold Key.find? at hfind
    split at hfind
    · next w hw =>
      cases hfind
      exact inside_of_lookup? hw
    · obtain ⟨w, hw, heq⟩ := Option.map_eq_some_iff.1 hfind
      cases heq
      exact inside_of_lookup? hw
  · cases h
    exact .inr rfl
  · cases h

end

/-- Reading the keys of a dictionary leaves its values. -/
theorem exists_of_readKeys {origin : Origin} {location : List Step} {entries : List (Value × Value)}
    {es : List (String × Value)} (h : readKeys origin location entries = .ok es) :
    es.map Prod.snd = entries.map Prod.snd := by
  induction entries generalizing es with
  | nil =>
    cases h
    rfl
  | cons e rest ih =>
    rw [readKeys] at h
    obtain ⟨p, hboth, rfl⟩ := exists_of_map_eq_ok h
    obtain ⟨-, hrest⟩ := Reading.exists_of_both hboth
    rw [List.map_cons, List.map_cons, ih hrest]

/-- A dictionary that has been read has different keys and values from the dictionary given. -/
theorem exists_of_readMapping {origin : Origin} {location : List Step} {v : Value}
    {es : List (String × Value)} (h : readMapping origin location v = .ok es) :
    (es.map Prod.fst).Nodup ∧ ∀ e ∈ es, Inside e.2 v := by
  unfold readMapping at h
  split at h
  · next entries =>
    obtain ⟨read, hread, rfl⟩ := exists_of_map_eq_ok h
    have hempty : (([] : List (String × Value)).map Prod.fst).Nodup := List.nodup_nil
    refine ⟨nodup_putEntries hempty read, fun e he => ?_⟩
    have hmem : e.2 ∈ read.map Prod.snd :=
      List.mem_map.2 ⟨e, (mem_putEntries he).resolve_left List.not_mem_nil, rfl⟩
    rw [exists_of_readKeys hread] at hmem
    obtain ⟨d, hd, heq⟩ := List.mem_map.1 hmem
    rw [← heq]
    exact .entry hd .self
  · cases h

/-! ## Documents that have been read -/

/-- The values under the keys of a credential definition, of which nothing is assumed. -/
def Document.values : Document → List Value
  | .schema _ => []
  | .credentialDefinition c => c.value.map Prod.snd

/-- A document of the model whose keys differ and whose values come from inside `v`. -/
structure Document.KeptFrom (model : Model) (v : Value) (d : Document) : Prop where
  model_eq : d.model = model
  hasDistinctKeys : d.HasDistinctKeys
  inside : ∀ w ∈ d.values, Inside w v

theorem fromMapping_keptFrom {model : Model} {origin : Origin} {v : Value} {d : Document}
    (h : fromMapping model origin v = .ok d) : d.KeptFrom model v := by
  unfold fromMapping at h
  split at h
  · next entries =>
    cases model with
    | schema =>
      obtain ⟨s, -, rfl⟩ := exists_of_map_eq_ok h
      exact ⟨rfl, trivial, fun w hw => nomatch hw⟩
    | credentialDefinition =>
      obtain ⟨c, hread, rfl⟩ := exists_of_map_eq_ok h
      obtain ⟨⟨schemaId, issuerId, tag, type, value⟩, hfields, rfl⟩ := exists_of_map_eq_ok hread
      -- the last of the five fields
      have hvalue := (Reading.exists_of_both (Reading.exists_of_both (Reading.exists_of_both
        (Reading.exists_of_both hfields).2).2).2).2
      rcases Key.exists_of_read hvalue with ⟨location, w, hw, hread⟩ | hdefault
      · obtain ⟨hnodup, hinside⟩ := exists_of_readMapping hread
        refine ⟨rfl, hnodup, fun u hu => ?_⟩
        obtain ⟨e, he, rfl⟩ := List.mem_map.1 hu
        exact (hinside e he).trans hw
      · cases hdefault
        exact ⟨rfl, List.nodup_nil, fun u hu => nomatch hu⟩
  · cases h

/-- The value that a raw input stands for: what a JSON text or the bytes of one spell, and any other
input as it is. -/
def Document.decoded? (raw : Value) : Option Value :=
  match raw with
  | .string _ | .bytes _ => (Json.read .document (textBytes raw)).toOption
  | v => some v

theorem fromJson_keptFrom {model : Model} {raw : Value} {bs : List UInt8} {d : Document}
    (h : fromJson model raw bs = .ok d) :
    ∃ v, Json.read .document bs = .ok v ∧ d.KeptFrom model v := by
  unfold fromJson at h
  split at h
  · next v hread => exact ⟨v, hread, fromMapping_keptFrom h⟩
  · cases h

/-- What has been read comes from the value that the input stands for. Its keys differ, unless a
dictionary in memory has a key twice. -/
theorem parse_keptFrom {model : Model} {raw : Value} {d : Document} (hkeys : raw.KeysDiffer)
    (h : parse model raw = .ok d) :
    ∃ v, decoded? raw = some v ∧ v.KeysDiffer ∧ d.KeptFrom model v := by
  unfold parse at h
  split at h
  · next s =>
    obtain ⟨v, hread, hkept⟩ := fromJson_keptFrom h
    exact ⟨v, by rw [decoded?, hread]; rfl, (Json.read_isJson hread).keysDiffer, hkept⟩
  · next bs =>
    obtain ⟨v, hread, hkept⟩ := fromJson_keptFrom h
    exact ⟨v, by rw [decoded?, hread]; rfl, (Json.read_isJson hread).keysDiffer, hkept⟩
  · next hstring hbytes =>
    refine ⟨raw, ?_, hkeys, fromMapping_keptFrom h⟩
    unfold decoded?
    split
    · next s => exact absurd rfl (hstring s)
    · next bs => exact absurd rfl (hbytes bs)
    · rfl

/-! ## Documents that equal themselves -/

/-- A document equals itself if its values do. -/
theorem Document.equal_self {d : Document} (hkeys : d.HasDistinctKeys)
    (h : ∀ v ∈ d.values, Value.equal v v = true) : d.draft.equal d.draft = true := by
  have hstring (s : String) : Value.equal (.string s) (.string s) = true := by simp [Value.equal]
  rw [Draft.equal, beq_self_eq_true, Bool.true_and]
  refine equalLists_self fun v hv => ?_
  obtain ⟨f, hf, rfl⟩ := List.mem_map.1 hv
  cases d with
  | schema s =>
    simp only [Document.draft, Draft.fields, Schema.draft, List.mem_cons, List.not_mem_nil,
      or_false] at hf
    rcases hf with rfl | rfl | rfl | rfl
    · exact hstring _
    · exact hstring _
    · exact hstring _
    · rw [Value.equal]
      refine equalLists_self fun w hw => ?_
      obtain ⟨name, -, rfl⟩ := List.mem_map.1 hw
      exact hstring name
  | credentialDefinition c =>
    simp only [Document.draft, Draft.fields, CredentialDefinition.draft, List.mem_cons,
      List.not_mem_nil, or_false] at hf
    rcases hf with rfl | rfl | rfl | rfl | rfl
    · exact hstring _
    · exact hstring _
    · exact hstring _
    · exact hstring _
    · rw [Value.equal, beq_self_eq_true, Bool.true_and]
      refine equalEntries_of_subset (pairwise_textEntries hkeys) (fun e he => ?_) fun e he => he
      obtain ⟨d, hd, rfl⟩ := List.mem_map.1 he
      exact ⟨hstring d.1, h d.2 (List.mem_map.2 ⟨d, hd, rfl⟩)⟩

/-! ## Loading -/

theorem load_eq_ok_iff {model : Model} {raw : Value} {d : Document} :
    load model raw = .ok d ↔ parse model raw = .ok d ∧ d.complaint? = none := by
  unfold load
  cases parse model raw with
  | error issues => simp
  | ok e =>
    simp only [e.ofVerdict_eq, Except.ok.injEq]
    constructor
    · intro h
      cases hcomplaint : e.complaint? with
      | none =>
        rw [hcomplaint] at h
        cases h
        exact ⟨rfl, hcomplaint⟩
      | some m =>
        rw [hcomplaint] at h
        cases h
    · rintro ⟨rfl, hcomplaint⟩
      rw [hcomplaint]

/-- **Loading normalises once.** A document that was loaded, from a JSON text, its bytes or a
dictionary, is loaded again from the dictionary of its fields, in camel case and in snake case, and
equals itself, since no NaN was in the input. -/
theorem load_dump {model : Model} {raw : Value} {d : Document} (hkeys : raw.KeysDiffer)
    (hnan : ∀ v, decoded? raw = some v → v.IsNaNFree) (hload : load model raw = .ok d)
    (camel : Bool) :
    load model (d.draft.dump camel) = .ok d ∧ d.draft.equal d.draft = true := by
  obtain ⟨hparse, hcomplaint⟩ := load_eq_ok_iff.1 hload
  obtain ⟨v, hv, hdiffer, hkept⟩ := parse_keptFrom hkeys hparse
  constructor
  · refine load_eq_ok_iff.2 ⟨?_, hcomplaint⟩
    rw [Draft.dump_eq, ← hkept.model_eq]
    exact d.readFields_spelled hkept.hasDistinctKeys .mapping camel
  · refine d.equal_self hkept.hasDistinctKeys fun w hw => ?_
    have hinside := hkept.inside w hw
    exact Value.equal_self w ((hnan v hv).of_inside hinside) (hdiffer.of_inside hinside)

/-- A credential definition in either spelling, with bytes for texts, two keys for one, no type and
a name that nobody reads. -/
def looseEntries : List (Value × Value) :=
  [(.string "schema_id", .bytes [0x61, 0x3A, 0x62]), (.string "issuerId", .string "a:b"),
    (.integer 7, .null), (.string "tag", .byteArray [0x74]),
    (.string "value", .dict [(.bytes [0x6B], .null), (.string "k", .tuple [.bool true])])]

/-- What it is loaded as. -/
def tidyDefinition : Document :=
  .credentialDefinition ⟨"a:b", "a:b", "t", signatureType, [("k", .tuple [.bool true])]⟩

theorem load_dump_loose :
    (Value.dict looseEntries).KeysDiffer ∧
      (∀ v, decoded? (.dict looseEntries) = some v → v.IsNaNFree) ∧
      load .credentialDefinition (.dict looseEntries) = .ok tidyDefinition ∧
      load .credentialDefinition (tidyDefinition.draft.dump false) = .ok tidyDefinition ∧
      tidyDefinition.draft.equal tidyDefinition.draft = true := by
  have hkeys : (Value.dict looseEntries).KeysDiffer := by
    intro entries hentries
    have hcases : entries = looseEntries ∨
        entries = [(.bytes [0x6B], .null), (.string "k", .tuple [.bool true])] := by
      grind [looseEntries, Inside]
    rcases hcases with rfl | rfl
    · simp [looseEntries, Value.equal, equalInteger]
    · simp [Value.equal]
  have hnan : ∀ v, decoded? (.dict looseEntries) = some v → v.IsNaNFree := by
    rintro v ⟨⟩
    grind [IsNaNFree, looseEntries, Inside]
  have hload : load .credentialDefinition (.dict looseEntries) = .ok tidyDefinition := by
    with_unfolding_all rfl
  exact ⟨hkeys, hnan, hload, load_dump hkeys hnan hload false⟩

end CredentialCheck
