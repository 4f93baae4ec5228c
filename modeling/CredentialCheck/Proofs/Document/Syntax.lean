import CredentialCheck.Proofs.Document.Bytes
import CredentialCheck.Proofs.Json.Nesting

/-!
# Faults of the JSON text

Loading bytes reports a fault of the JSON text just if they are not the UTF-8 encoding of a text of
the grammar. That is then the only issue, at no place in the document, and no field is looked at.
Otherwise the fields are read from the whole value, and no issue is about the text.

* `Spares` says that no issue of a reading is of a kind; `spares_fromMapping` is about fields.
* `load_notJson_iff` is the statement.
-/

namespace CredentialCheck

open Document Json Json.Grammar Text

/-! ## Issues of fields -/

/-- No issue of the reading is about the JSON text. -/
def Spares {α : Type} (r : Reading α) : Prop :=
  ∀ issues, r = .error issues → ∀ issue ∈ issues, ∀ fault, issue.rule ≠ .json fault

section

variable {α β : Type}

theorem spares_ok (x : α) : Spares (.ok x : Reading α) := fun _ h => nomatch h

theorem spares_issueAt {rule : Rule} (h : ∀ fault, rule ≠ .json fault) (location : List Step)
    (input : Value) : Spares (issueAt rule location input : Reading α) := by
  rintro issues ⟨⟩ issue hissue
  rw [List.mem_singleton.1 hissue]
  exact h

theorem Spares.both {a : Reading α} {b : Reading β} (ha : Spares a) (hb : Spares b) :
    Spares (a.both b) := by
  intro issues h issue hissue
  cases a with
  | ok x =>
    cases b with
    | ok y => cases h
    | error more =>
      cases h
      exact hb _ rfl issue hissue
  | error first =>
    cases b with
    | ok y =>
      cases h
      exact ha _ rfl issue hissue
    | error more =>
      cases h
      rcases List.mem_append.1 hissue with hissue | hissue
      · exact ha _ rfl issue hissue
      · exact hb _ rfl issue hissue

theorem Spares.map {r : Reading α} (h : Spares r) (f : α → β) : Spares (r.map f) := by
  cases r with
  | ok x => exact spares_ok _
  | error issues =>
    rintro issues' ⟨⟩
    exact h issues rfl

end

section

variable (origin : Origin) (location : List Step)

theorem spares_readText (v : Value) : Spares (readText origin location v) := by
  unfold readText readBytes
  split
  · exact spares_ok _
  · split
    · exact spares_ok _
    · exact spares_issueAt (by simp) _ _
  · split
    · exact spares_ok _
    · exact spares_issueAt (by simp) _ _
  · exact spares_issueAt (by simp) _ _

theorem spares_readEach (index : Nat) (vs : List Value) :
    Spares (readEach origin location index vs) := by
  induction vs generalizing index with
  | nil => exact spares_ok _
  | cons v vs ih => exact ((spares_readText origin _ v).both (ih (index + 1))).map _

theorem spares_readTexts (v : Value) : Spares (readTexts origin location v) := by
  unfold readTexts
  split
  · exact spares_readEach _ _ _ _
  · exact spares_readEach _ _ _ _
  · exact spares_readEach _ _ _ _
  · exact spares_issueAt (by simp) _ _

theorem spares_readKeys (entries : List (Value × Value)) :
    Spares (readKeys origin location entries) := by
  induction entries with
  | nil => exact spares_ok _
  | cons e es ih => exact ((spares_readText origin _ e.1).both ih).map _

theorem spares_readMapping (v : Value) : Spares (readMapping origin location v) := by
  unfold readMapping
  split
  · exact (spares_readKeys _ _ _).map _
  · exact spares_issueAt (by simp) _ _

end

theorem Document.Key.spares_read {α : Type} (key : Key) (entries : List (Value × Value))
    (default? : Option α) {reader : List Step → Value → Reading α}
    (hreader : ∀ location v, Spares (reader location v)) :
    Spares (key.read entries default? reader) := by
  unfold Key.read
  split
  · exact hreader _ _
  · exact spares_ok _
  · exact spares_issueAt (by simp) _ _

/-- The issues of the fields are not about the JSON text. -/
theorem spares_fromMapping (model : Model) (origin : Origin) (v : Value) :
    Spares (fromMapping model origin v) := by
  have htext (key : Key) (entries : List (Value × Value)) (default? : Option String) :
      Spares (key.read entries default? (readText origin)) :=
    key.spares_read entries default? (spares_readText origin)
  have htexts (key : Key) (entries : List (Value × Value)) (default? : Option (List String)) :
      Spares (key.read entries default? (readTexts origin)) :=
    key.spares_read entries default? (spares_readTexts origin)
  have hmapping (key : Key) (entries : List (Value × Value))
      (default? : Option (List (String × Value))) :
      Spares (key.read entries default? (readMapping origin)) :=
    key.spares_read entries default? (spares_readMapping origin)
  unfold fromMapping
  split
  · next entries =>
    cases model with
    | schema =>
      have hfields : Spares (readSchema origin entries) :=
        ((htext _ _ _).both ((htext _ _ _).both ((htext _ _ _).both (htexts _ _ _)))).map _
      exact hfields.map _
    | credentialDefinition =>
      have hfields : Spares (readCredentialDefinition origin entries) :=
        ((htext _ _ _).both ((htext _ _ _).both ((htext _ _ _).both
          ((htext _ _ _).both (hmapping _ _ _))))).map _
      exact hfields.map _
  · exact spares_issueAt (by simp) _ _

/-- What comes of a value is not a fault of the JSON text. -/
theorem loadValue_ne_notJson (model : Model) (v raw : Value) (fault : Json.Fault) :
    loadValue model v ≠ .error (notJson raw fault) := by
  unfold loadValue
  cases hread : fromMapping model .json v with
  | error issues =>
    intro heq
    cases heq
    exact spares_fromMapping model .json v _ hread _ List.mem_cons_self fault rfl
  | ok d =>
    dsimp only
    rw [d.ofVerdict_eq]
    cases d.complaint? with
    | none => exact fun heq => nomatch heq
    | some m => exact fun heq => nomatch heq

/-! ## The grammar -/

/-- All numbers in the bytes, if they are a text of the grammar, are texts of at most so many
characters. -/
def NumbersWithin (n : Nat) (bs : List UInt8) : Prop :=
  ∀ s v, bs = Utf8.encode s → TextOf nothing (fun _ => True) s v → TextOf nothing (·.length ≤ n) s v

theorem numbersWithin_of_length_le {n : Nat} {t : List Char} (h : t.length ≤ n) :
    NumbersWithin n (Utf8.encode t) := by
  intro s v hs hv
  obtain rfl := Utf8.encode_injective hs
  exact hv.of_length_le h

/-- **A fault of the JSON text is reported just for bytes outside the grammar.** For bytes in which
no number has more than 4300 characters, loading ends with one issue on the JSON text, at no place,
if and only if they are not the UTF-8 encoding of a text of the grammar, in which each value stands
inside fewer than 201 lists and objects. In that case what is loaded is the value that the text
spells, field by field. -/
theorem load_notJson_iff (model : Model) {bs : List UInt8} (hnumbers : NumbersWithin 4300 bs) :
    ((∃ fault, load model (.bytes bs) =
        .error (.unparsable .json [⟨.json fault, [], .bytes bs⟩])) ↔
      ¬ ∃ s v, bs = Utf8.encode s ∧ TextOf nothing (fun _ => True) s v) ∧
    ∀ s v, bs = Utf8.encode s → TextOf nothing (fun _ => True) s v →
      load model (.bytes bs) = loadValue model v := by
  have hload := load_of_originOf_eq_json model (show originOf (.bytes bs) = .json from rfl)
  rw [textBytes] at hload
  have hspelled (s : List Char) (v : Value) (hs : bs = Utf8.encode s)
      (hv : TextOf nothing (fun _ => True) s v) : load model (.bytes bs) = loadValue model v := by
    have hread : Json.read .document bs = .ok v := by
      rw [hs]
      exact read_complete (wholeText_of_textOf (hnumbers s v hs hv))
    rw [hload, hread]
  refine ⟨⟨?_, fun hnone => ?_⟩, hspelled⟩
  · rintro ⟨fault, hfault⟩ ⟨s, v, hs, hv⟩
    exact loadValue_ne_notJson model v _ fault ((hspelled s v hs hv).symm.trans hfault)
  · cases hread : Json.read .document bs with
    | error fault =>
      rw [hread] at hload
      exact ⟨fault, hload⟩
    | ok v =>
      obtain ⟨s, hs, hbytes⟩ := read_sound (by decide) hread
      exact absurd ⟨s, v, hbytes, textOf_of_wholeText hs⟩ hnone

/-- A comma behind the last element of a list is not in the grammar: it is a fault of the text. -/
theorem load_notJson_iff_comma :
    NumbersWithin 4300 (Utf8.encode "[1,]".toList) ∧
      ¬ ∃ s v, Utf8.encode "[1,]".toList = Utf8.encode s ∧ TextOf nothing (fun _ => True) s v := by
  have hnumbers : NumbersWithin 4300 (Utf8.encode "[1,]".toList) :=
    numbersWithin_of_length_le (by decide)
  exact ⟨hnumbers, (load_notJson_iff .schema hnumbers).1.1 ⟨⟨.trailingComma, 1⟩, rfl⟩⟩

/-! ## The deepest level -/

/-- A number inside lists. -/
def numberInside (levels : Nat) : List Char :=
  List.replicate levels '[' ++ '1' :: List.replicate levels ']'

/-- With numbers on the innermost level the text would be one of the grammar. -/
theorem nestedText_numberInside {n : Nat} {levels : Nat}
    (hlevels : (numberInside levels).length ≤ n) :
    ∃ v, NestedText (ScalarText (·.length ≤ n)) (·.length ≤ n) levels (numberInside levels) v := by
  induction levels with
  | zero =>
    have hwhole : Whole ['1'] := ⟨⟨by simp, by simp⟩, by simp⟩
    have hnumber : NumberText 1 ['1'] (.integer 1) :=
      .unsigned hwhole (Nat.le_refl 1) .absent .absent
    exact ⟨.integer 1, ⟨⟨⟨1, .number hnumber⟩, fun _ _ => hlevels⟩, by decide, by decide⟩⟩
  | succ levels ih =>
    have hshape : numberInside (levels + 1) = '[' :: numberInside levels ++ [']'] := by
      simp [numberInside, List.replicate_succ, ← List.replicate_succ']
    have hlength : (numberInside levels).length ≤ n := by
      rw [hshape] at hlevels
      simp at hlevels
      omega
    obtain ⟨v, hv⟩ := ih hlength
    have hnil : Blank [] := fun c hc => nomatch hc
    have helements := ElementsText.last hnil hv hnil
    rw [List.nil_append, List.append_nil] at helements
    refine ⟨.list [v], ⟨0, ?_⟩, fun _ _ => hlevels⟩
    rw [hshape]
    exact .list helements

/-- A number inside 201 lists is a fault of the text, though no list is nested deeper. -/
theorem load_numberInside :
    (∃ v, TextOf (ScalarText (·.length ≤ 4300)) (·.length ≤ 4300) (numberInside 201) v) ∧
      ∀ model, ∃ fault, load model (.bytes (Utf8.encode (numberInside 201))) =
        .error (.unparsable .json
          [⟨.json fault, [], .bytes (Utf8.encode (numberInside 201))⟩]) := by
  have hfault : (Json.read .document (Utf8.encode (numberInside 201))).toOption.isNone = true := by
    decide +kernel
  constructor
  · obtain ⟨v, hv⟩ := nestedText_numberInside
      (show (numberInside 201).length ≤ 4300 by decide +kernel)
    have hnil : Blank [] := fun c hc => nomatch hc
    have htext := TextOf.mk hnil hv hnil
    rw [List.nil_append, List.append_nil] at htext
    exact ⟨v, htext⟩
  · intro model
    rw [load_of_originOf_eq_json model rfl, textBytes]
    cases hread : Json.read .document (Utf8.encode (numberInside 201)) with
    | error fault => exact ⟨fault, rfl⟩
    | ok v =>
      rw [hread] at hfault
      cases hfault

end CredentialCheck
