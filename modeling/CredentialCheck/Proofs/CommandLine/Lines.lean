import CredentialCheck.Proofs.CommandLine.Arguments
import CredentialCheck.Proofs.CommandLine.Yields
import CredentialCheck.Proofs.Document.Complaint
import Mathlib.Data.List.Forall2

/-!
# The lines of a run

What a run prints on an item, as a function of the item, the kind asked for, and the tree of files
that the item finds. Nothing else of the world is looked at, and whatever the items before may have
left, each item comes to its report.

* `identifierLine` and `documentLine` are the lines, `fileReason?` is why a document is not valid.
* `Item.report` is the line of an item with the verdict in it.
* `gives_checkAll`: the items one after the other.
-/

namespace CredentialCheck.CommandLine

open Document

/-! ## Lines -/

/-- The line for an identifier. -/
def identifierLine (asked : Value) (s : String) : String :=
  s ++ ": " ++ (if Identifier.accepts (.string s) asked then
    (Identifier.classify (.string s)).name else "invalid")

/-- Why a text holds no valid document; nothing if it does. -/
def textReason? (model : Model) (text : String) : Option Reason :=
  match load model (.string text) with
  | .ok _ => none
  | .error failure => some (failure.validationError model).detail.display

/-- Why the file at a path holds no valid document; nothing if it does. -/
def fileReason? (fs : FileSystem) (model : Model) (path : String) : Option Reason :=
  match fs.readText (.text path) with
  | .error fault => some ("Cannot read " ++ path ++ ": " ++ fault.message)
  | .ok text => textReason? model text

/-- The line for a document. -/
def documentLine (fs : FileSystem) (model : Model) (path : String) : String :=
  match fileReason? fs model path with
  | none => path ++ ": valid " ++ model.name
  | some reason => path ++ ": invalid (" ++ reason ++ ")"

section

variable {holds : FileSystem → Prop}

/-! ## Identifiers -/

theorem yields_classifyIdentifier (s : String) :
    Yields holds (classifyIdentifier s) (Identifier.classify (.string s)) [] := by
  have huri : Yields holds (testWith Pattern.Shared.isUri (.string s))
      (Identifier.isUri (.string s)) [] := yields_testWith fun _ h => h.isUri _
  have hlegacy : Yields holds (testWith Pattern.Shared.isLegacy (.string s))
      (Identifier.isLegacy (.string s)) [] := yields_testWith fun _ h => h.isLegacy _
  refine huri.bind ?_
  unfold Identifier.classify
  cases Identifier.isUri (.string s) with
  | true => exact .pure _
  | false =>
    refine hlegacy.bind ?_
    cases Identifier.isLegacy (.string s) <;> exact .pure _

theorem yields_acceptsIdentifier (s : String) (asked : Value) :
    Yields holds (acceptsIdentifier s asked) (Identifier.accepts (.string s) asked) [] := by
  refine (yields_classifyIdentifier s).bind ?_
  unfold Identifier.accepts
  cases Identifier.classify (.string s) <;> exact .pure _

theorem yields_checkIdentifier (asked : Value) (s : String) :
    Yields holds (checkIdentifier asked s) (.ok (Identifier.accepts (.string s) asked))
      [identifierLine asked s] := by
  refine (yields_classifyIdentifier s).bind ((yields_acceptsIdentifier s asked).bind ?_)
  exact (yields_printLine _).bind (.pure _)

/-! ## Documents -/

/-- The verdict by a test that makes use of the shared patterns. -/
theorem yields_verdictWith (d : Draft) :
    Yields holds (d.verdictWith (testWith Pattern.Shared.isIdentifier)) d.verdict [] := by
  have htest (v : Value) : Yields holds (testWith Pattern.Shared.isIdentifier v)
      (Identifier.isIdentifier v) [] := yields_testWith fun _ h => h.isIdentifier v
  cases d with
  | schema d =>
    refine (htest d.issuerId).bind ?_
    simp only [Draft.verdict, Draft.verdictWith, SchemaDraft.verdictWith]
    cases Identifier.isIdentifier d.issuerId with
    | false => exact .pure _
    | true =>
      cases d.attrNames.isTruthy with
      | false => exact .pure _
      | true => exact .pure _
  | credentialDefinition d =>
    refine (htest d.schemaId).bind ?_
    simp only [Draft.verdict, Draft.verdictWith, CredentialDefinitionDraft.verdictWith]
    cases Identifier.isIdentifier d.schemaId with
    | false => exact .pure _
    | true =>
      refine (htest d.issuerId).bind ?_
      cases Identifier.isIdentifier d.issuerId with
      | false => exact .pure _
      | true =>
        cases d.type.equal (.string signatureType) with
        | false => exact .pure _
        | true => exact .pure _

theorem yields_loadText (model : Model) (text : String) :
    Yields holds (loadText model text) (.ok (textReason? model text)) [] := by
  unfold loadText textReason? load
  cases Document.parse model (.string text) with
  | error issues => exact .pure _
  | ok d =>
    have hverdict : d.draft.verdict = .ok (d.complaint?.map fun m => ⟨.string m⟩) := d.verdict_eq
    refine (yields_verdictWith d.draft).bind ?_
    simp only [hverdict, d.ofVerdict_eq]
    cases d.complaint? with
    | none => exact .pure _
    | some m => exact (yields_record _ _ _).bind (.pure _)

theorem unparsableText_ne_empty (model : Model) : unparsableText model ≠ "" :=
  append_ne_empty (by decide) model.name

/-- No reason is empty. -/
theorem textReason?_ne_empty {model : Model} {text : String} {reason : Reason}
    (h : textReason? model text = some reason) : reason ≠ "" := by
  unfold textReason? load at h
  cases hparse : Document.parse model (.string text) with
  | error issues =>
    rw [hparse] at h
    cases h
    have hprefix := append_ne_empty (unparsableText_ne_empty model) ": "
    exact append_ne_empty hprefix (issuesText model .json issues)
  | ok d =>
    rw [hparse] at h
    simp only [d.ofVerdict_eq] at h
    cases hcomplaint : d.complaint? with
    | none =>
      rw [hcomplaint] at h
      cases h
    | some m =>
      rw [hcomplaint] at h
      cases h
      exact Document.complaint?_ne_empty hcomplaint

theorem fileReason?_ne_empty {fs : FileSystem} {model : Model} {path : String} {reason : Reason}
    (h : fileReason? fs model path = some reason) : reason ≠ "" := by
  unfold fileReason? at h
  split at h
  · cases h
    exact append_ne_empty (append_ne_empty (append_ne_empty (by decide) _) _) _
  · exact textReason?_ne_empty h

/-- What is done with a document depends on what is found at its path. -/
theorem yieldsFrom_loadFile {w : World} (hw : w.Ready holds) (model : Model) {path : String}
    (h : '\x00' ∉ path.toList) :
    YieldsFrom holds w (loadFile model path) (.ok (fileReason? w.files model path)) [] := by
  have hnull := w.files.readText_ne_nullInPath h
  unfold YieldsFrom loadFile fileReason?
  rw [run_get_bind]
  cases hread : w.files.readText (.text path) with
  | ok text => exact yields_loadText model text w hw
  | error fault =>
    cases fault with
    | nullInPath => exact absurd hread hnull
    | errno | notUtf8 => exact Yields.pure _ w hw

/-- The line with the verdict on a document. -/
theorem yields_printVerdict (valid : Bool) (line : String) :
    Yields holds (do return (← printLine .output line).map fun () => valid) (.ok valid) [line] :=
  (yields_printLine line).bind (.pure _)

theorem documentLine_of_reason {fs : FileSystem} {model : Model} {path : String} {reason : Reason}
    (h : fileReason? fs model path = some reason) :
    documentLine fs model path = invalidLine path reason := by
  unfold documentLine invalidLine
  rw [h, if_neg (by simpa using fileReason?_ne_empty h)]

theorem yieldsFrom_checkDocument {w : World} (hw : w.Ready holds) (model : Model) {path : String}
    (h : '\x00' ∉ path.toList) :
    YieldsFrom holds w (checkDocument model (.string path))
      (.ok (fileReason? w.files model path).isNone) [documentLine w.files model path] := by
  have hload := yieldsFrom_loadFile hw model h
  cases hreason : fileReason? w.files model path with
  | none =>
    rw [hreason] at hload
    have hline : documentLine w.files model path = path ++ ": valid " ++ model.name := by
      rw [documentLine, hreason]
    rw [hline]
    exact hload.bind (yields_printVerdict true _)
  | some reason =>
    rw [hreason] at hload
    rw [documentLine_of_reason hreason]
    exact hload.bind ((yields_record _ _ _).bind (yields_printVerdict false _))

/-! ## Items -/

/-- The line for an item. -/
def Item.line (fs : FileSystem) (asked : Value) : Item → String
  | .identifier s => identifierLine asked s
  | .document model path => documentLine fs model path.display

/-- Whether an item is faulty. -/
def Item.isFaulty (fs : FileSystem) (asked : Value) : Item → Bool
  | .identifier s => !Identifier.accepts (.string s) asked
  | .document model path => (fileReason? fs model path.display).isSome

/-- What is printed on an item. -/
structure Report where
  valid : Bool
  line : String

/-- The report on an item when the files are as in the tree. -/
def Item.report (fs : FileSystem) (asked : Value) (item : Item) : Report :=
  ⟨!item.isFaulty fs asked, item.line fs asked⟩

/-- An item that can be reported on: an identifier, or a document at a path without a null
character. -/
def Item.NullFree : Item → Prop
  | .identifier _ => True
  | .document _ path => ∃ s : String, path = .string s ∧ '\x00' ∉ s.toList

/-- The path of the item, if it is a document, has the property. -/
def Item.PathIs (readable : String → Prop) : Item → Prop
  | .identifier _ => True
  | .document _ path => ∀ s, path = .string s → readable s

theorem Item.PathIs.mono {item : Item} {readable readable' : String → Prop}
    (h : item.PathIs readable) (himp : ∀ path, readable path → readable' path) :
    item.PathIs readable' := by
  cases item with
  | identifier s => trivial
  | document model path => exact fun s hs => himp s (h s hs)

/-- A report depends on what is read at the path. -/
theorem Item.report_congr {item : Item} (h : item.NullFree) {fs fs' : FileSystem}
    (hread : item.PathIs fun path => fs'.readText (.text path) = fs.readText (.text path))
    (asked : Value) : item.report fs' asked = item.report fs asked := by
  cases item with
  | identifier s => rfl
  | document model path =>
    obtain ⟨s, rfl, -⟩ := h
    have hreason : fileReason? fs' model s = fileReason? fs model s := by
      rw [fileReason?, fileReason?, hread s rfl]
    simp only [Item.report, Item.isFaulty, Item.line, Value.display, documentLine, hreason]

theorem yieldsFrom_checkItem {w : World} (hw : w.Ready holds) (asked : Value) {item : Item}
    (h : item.NullFree) :
    YieldsFrom holds w (checkItem asked item) (.ok (item.report w.files asked).valid)
      [(item.report w.files asked).line] := by
  cases item with
  | identifier s =>
    rw [Item.report, Item.isFaulty, Bool.not_not]
    exact yields_checkIdentifier asked s w hw
  | document model path =>
    obtain ⟨s, rfl, hs⟩ := h
    rw [Item.report, Item.isFaulty, Option.not_isSome]
    exact yieldsFrom_checkDocument hw model hs

/-- The reports on items, each of which finds files with the property. -/
def Reports (holds : FileSystem → Prop) (asked : Value) : List Item → List Report → Prop :=
  List.Forall₂ fun item report => ∃ fs, holds fs ∧ report = item.report fs asked

/-- Items have been checked: there is a line for each, and those that are not valid are counted. -/
def AllReported (holds : FileSystem → Prop) (asked : Value) (items : List Item)
    (result : Except Escape Nat) (lines : List String) : Prop :=
  ∃ reports, Reports holds asked items reports ∧ lines = reports.map (·.line) ∧
    result = .ok (reports.countP (!·.valid))

/-- The first item finds the files as they are. -/
theorem yieldsFrom_checkAll_cons {w : World} (hw : w.Ready holds) {asked : Value} {item : Item}
    (hitem : item.NullFree) {items : List Item}
    (hrest : Gives holds (checkAll asked items) (AllReported holds asked items)) :
    ∃ reports, Reports holds asked items reports ∧
      YieldsFrom holds w (checkAll asked (item :: items))
        (.ok ((item.report w.files asked :: reports).countP (!·.valid)))
        ((item.report w.files asked :: reports).map (·.line)) := by
  generalize hreport : item.report w.files asked = report
  have hfirst := yieldsFrom_checkItem hw asked hitem
  rw [hreport] at hfirst
  suffices hcounted : ∃ result lines, (∃ reports, Reports holds asked items reports ∧
      lines = reports.map (·.line) ∧ result = .ok ((report :: reports).countP (!·.valid))) ∧
        YieldsFrom holds w (checkAll asked (item :: items)) result ([report.line] ++ lines) by
    obtain ⟨_, _, ⟨reports, hreports, rfl, rfl⟩, hboth⟩ := hcounted
    exact ⟨reports, hreports, hboth⟩
  refine hfirst.bind_gives (hrest.bind ?_)
  rintro result lines ⟨reports, hreports, rfl, rfl⟩
  refine (Yields.pure _).gives ⟨reports, hreports, List.append_nil _, ?_⟩
  rw [List.countP_cons]
  cases report.valid <;> rfl

/-- **Each item comes to its report, in order**, and those that are not valid are counted. -/
theorem gives_checkAll (asked : Value) {items : List Item} (h : ∀ item ∈ items, item.NullFree) :
    Gives holds (checkAll asked items) (AllReported holds asked items) := by
  induction items with
  | nil => exact (Yields.pure _).gives ⟨[], .nil, rfl, rfl⟩
  | cons item items ih =>
    rw [List.forall_mem_cons] at h
    intro w hw
    obtain ⟨reports, hreports, hfrom⟩ := yieldsFrom_checkAll_cons hw h.1 (ih h.2)
    exact ⟨_, _, ⟨_, .cons ⟨w.files, hw.files, rfl⟩ hreports, rfl, rfl⟩, hfrom⟩

/-- Where the property determines the reports, they are those. -/
theorem Reports.eq_map {asked : Value} {items : List Item} {reports : List Report}
    (h : Reports holds asked items reports) {fs : FileSystem}
    (hsame : ∀ fs', holds fs' → ∀ item ∈ items, item.report fs' asked = item.report fs asked) :
    reports = items.map (·.report fs asked) := by
  induction h with
  | nil => rfl
  | cons hreport hreports ih =>
    obtain ⟨fs', hfs', rfl⟩ := hreport
    rw [List.map_cons, hsame fs' hfs' _ List.mem_cons_self,
      ih fun fs'' hfs'' item hitem => hsame fs'' hfs'' item (List.mem_cons_of_mem _ hitem)]

end

/-! ## Command lines -/

section

variable {a : Arguments} {schemas definitions : List String} {fs : FileSystem}

theorem pathIs_of_mem_items {readable : String → Prop}
    (h : ∀ path, .string path ∈ a.schemas ++ a.credentialDefinitions → readable path) :
    ∀ item ∈ a.items, item.PathIs readable := by
  intro item hitem
  rw [Arguments.items, List.mem_append, List.mem_append] at hitem
  rcases hitem with (hitem | hitem) | hitem
  · obtain ⟨s, -, rfl⟩ := List.mem_map.1 hitem
    trivial
  · obtain ⟨v, hv, rfl⟩ := List.mem_map.1 hitem
    rintro path rfl
    exact h path (List.mem_append_left _ hv)
  · obtain ⟨v, hv, rfl⟩ := List.mem_map.1 hitem
    rintro path rfl
    exact h path (List.mem_append_right _ hv)

/-- The items when all paths are texts. -/
theorem items_eq (hschemas : a.schemas = schemas.map .string)
    (hdefinitions : a.credentialDefinitions = definitions.map .string) :
    a.items = a.identifiers.map .identifier ++ schemas.map (.document .schema <| .string ·) ++
      definitions.map (.document .credentialDefinition <| .string ·) := by
  rw [Arguments.items, hschemas, hdefinitions, List.map_map, List.map_map]
  rfl

theorem map_line_items (hschemas : a.schemas = schemas.map .string)
    (hdefinitions : a.credentialDefinitions = definitions.map .string) :
    a.items.map (·.line fs a.kind) =
      a.identifiers.map (identifierLine a.kind) ++ schemas.map (documentLine fs .schema) ++
        definitions.map (documentLine fs .credentialDefinition) := by
  rw [items_eq hschemas hdefinitions, List.map_append, List.map_append, List.map_map, List.map_map,
    List.map_map]
  rfl

end

end CredentialCheck.CommandLine
