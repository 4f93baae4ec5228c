import CredentialCheck.Pattern.Store
import CredentialCheck.Proofs.CommandLine.Lines
import CredentialCheck.Proofs.Document.Rules

/-!
# What a run has to log

The records of a run, item by item. The compilation of a pattern is logged at the first item that
needs the pattern: that of URI identifiers is needed for each text that is tested, and that of
legacy identifiers for texts that are not URI identifiers. Behind that, a document that is read and
breaks a rule is logged with the message, and a document that fails in any way with its path.

* `Item.tested` are the texts that are tested at an item, `announced` what is logged on them.
* `Item.failures` is what is logged at the end of an item.
* `recordsOf` are the records of items, one after the other.
* `timesLogged_announcement_le`: no compilation is logged twice.
-/

namespace CredentialCheck

open Pattern (announcement uriExpression legacyExpression)

/-- The texts in a document that are tested for being identifiers. The second identifier of a
credential definition is not looked at if the first is none. -/
def Document.tested : Document → List String
  | .schema s => [s.issuerId]
  | .credentialDefinition c =>
    if Identifier.isIdentifier (.string c.schemaId) then [c.schemaId, c.issuerId] else [c.schemaId]

namespace CommandLine

open Document

/-! ## Records -/

/-- The record on an expression that has been compiled. -/
def compiledRecord (expression : String) : Log.Record :=
  ⟨"anoncreds_validation.core.patterns", .number 10, announcement (.string expression)⟩

/-- The record on a document that breaks a rule. -/
def brokenRecord (model : Model) (message : String) : Log.Record :=
  ⟨"anoncreds_validation.core.models", .number 10, model.name ++ " failed validation: " ++ message⟩

/-- The record on a document that is not valid. -/
def failedRecord (path : String) : Log.Record :=
  ⟨"anoncreds_validation.cli.cli", .number 20, "Validation of " ++ path ++ " failed"⟩

/-! ## Texts and patterns -/

/-- The document in a file, if it can be read. -/
def document? (fs : FileSystem) (model : Model) (path : String) : Option Document :=
  match fs.readText (.text path) with
  | .error _ => none
  | .ok text => (Document.parse model (.string text)).toOption

/-- The texts that are tested at an item. -/
def Item.tested (fs : FileSystem) : Item → List String
  | .identifier s => [s]
  | .document model path => ((document? fs model path.display).map Document.tested).getD []

/-- A text that the pattern of legacy identifiers is needed for. -/
def needsLegacy (s : String) : Bool := !Identifier.isUri (.string s)

/-- What is logged on a pattern when texts are tested: its compilation, if one of the texts needs it
and none of those before did. -/
def announcedFor (expression : String) (needs : String → Bool) (before tested : List String) :
    List Log.Record :=
  if tested.any needs && !before.any needs then [compiledRecord expression] else []

/-- What is logged on the two patterns when texts are tested. -/
def announced (before tested : List String) : List Log.Record :=
  announcedFor uriExpression (fun _ => true) before tested ++
    announcedFor legacyExpression needsLegacy before tested

theorem announced_nil (before : List String) : announced before [] = [] := by
  simp [announced, announcedFor]

/-- Texts are tested one after the other. -/
theorem announced_cons (before : List String) (s : String) (tested : List String) :
    announced before (s :: tested) = announced before [s] ++ announced (before ++ [s]) tested := by
  cases hs : needsLegacy s <;> cases hbefore : before.any needsLegacy <;>
    simp [announced, announcedFor, hs, hbefore]

/-! ## Items -/

/-- What is logged at last on an item that is a document and fails. -/
def Item.failures (fs : FileSystem) : Item → List Log.Record
  | .identifier _ => []
  | .document model path =>
    if (fileReason? fs model path.display).isSome then [failedRecord path.display] else []

/-- What is logged on an item that is a document when it has been read. -/
def Item.judged (fs : FileSystem) : Item → List Log.Record
  | .identifier _ => []
  | .document model path =>
    ((document? fs model path.display).bind Document.complaint?).toList.map (brokenRecord model)

/-- The records of an item, when certain texts have been tested before. -/
def Item.records (fs : FileSystem) (before : List String) (item : Item) : List Log.Record :=
  announced before (item.tested fs) ++ item.judged fs ++ item.failures fs

/-- The records of items, one after the other. -/
def recordsOf (fs : FileSystem) (before : List String) : List Item → List Log.Record
  | [] => []
  | item :: items => item.records fs before ++ recordsOf fs (before ++ item.tested fs) items

/-! ## Levels -/

variable {fs : FileSystem} {item : Item} {r : Log.Record}

theorem eq_of_mem_announced {before tested : List String} (h : r ∈ announced before tested) :
    ∃ expression, r = compiledRecord expression := by
  have hfor {expression : String} {needs : String → Bool}
      (h : r ∈ announcedFor expression needs before tested) : r = compiledRecord expression := by
    unfold announcedFor at h
    split at h
    · exact List.mem_singleton.1 h
    · cases h
  rcases List.mem_append.1 h with h | h
  · exact ⟨_, hfor h⟩
  · exact ⟨_, hfor h⟩

theorem eq_of_mem_judged (h : r ∈ item.judged fs) :
    ∃ model message, r = brokenRecord model message := by
  cases item with
  | identifier s => cases h
  | document model path =>
    obtain ⟨message, -, rfl⟩ := List.mem_map.1 h
    exact ⟨model, message, rfl⟩

theorem eq_of_mem_failures (h : r ∈ item.failures fs) : ∃ path, r = failedRecord path := by
  cases item with
  | identifier s => cases h
  | document model path =>
    rw [Item.failures] at h
    split at h
    · exact ⟨_, List.mem_singleton.1 h⟩
    · cases h

/-- At the level 10 all records are logged. -/
theorem filter_recordsOf_debug (before : List String) (items : List Item) :
    (recordsOf fs before items).filter (fun r => 10 ≤ r.level.value) =
      recordsOf fs before items := by
  refine List.filter_eq_self.2 fun r hr => ?_
  induction items generalizing before with
  | nil => cases hr
  | cons item items ih =>
    simp only [recordsOf, Item.records, List.mem_append] at hr
    rcases hr with ((hr | hr) | hr) | hr
    · obtain ⟨expression, rfl⟩ := eq_of_mem_announced hr
      rfl
    · obtain ⟨model, message, rfl⟩ := eq_of_mem_judged hr
      rfl
    · obtain ⟨path, rfl⟩ := eq_of_mem_failures hr
      rfl
    · exact ih _ hr

/-- At the level 20 the records on failures are logged, and no others. -/
theorem filter_recordsOf_info (before : List String) (items : List Item) :
    (recordsOf fs before items).filter (fun r => 20 ≤ r.level.value) =
      items.flatMap (·.failures fs) := by
  induction items generalizing before with
  | nil => rfl
  | cons item items ih =>
    have hannounced : (announced before (item.tested fs)).filter
        (fun r => 20 ≤ r.level.value) = [] := by
      refine List.filter_eq_nil_iff.2 fun r hr => ?_
      obtain ⟨expression, rfl⟩ := eq_of_mem_announced hr
      exact of_decide_eq_false rfl
    have hjudged : (item.judged fs).filter (fun r => 20 ≤ r.level.value) = [] := by
      refine List.filter_eq_nil_iff.2 fun r hr => ?_
      obtain ⟨model, message, rfl⟩ := eq_of_mem_judged hr
      exact of_decide_eq_false rfl
    have hfailures : (item.failures fs).filter (fun r => 20 ≤ r.level.value) =
        item.failures fs := by
      refine List.filter_eq_self.2 fun r hr => ?_
      obtain ⟨path, rfl⟩ := eq_of_mem_failures hr
      rfl
    rw [recordsOf, Item.records, List.filter_append, List.filter_append, List.filter_append,
      hannounced, hjudged, hfailures, ih, List.flatMap_cons]
    rfl

/-! ## Compilations -/

/-- How often a text is the message of a record. -/
def timesLogged (message : String) (records : List Log.Record) : Nat :=
  (records.map Log.Record.message).count message

theorem timesLogged_append (message : String) (records more : List Log.Record) :
    timesLogged message (records ++ more) =
      timesLogged message records + timesLogged message more := by
  rw [timesLogged, List.map_append, List.count_append]
  rfl

theorem timesLogged_eq_zero {message : String} {records : List Log.Record}
    (h : ∀ r ∈ records, r.message ≠ message) : timesLogged message records = 0 := by
  refine List.count_eq_zero.2 fun hmem => ?_
  obtain ⟨r, hr, heq⟩ := List.mem_map.1 hmem
  exact h r hr heq

theorem brokenRecord_ne_announcement (model : Model) (message expression : String) :
    (brokenRecord model message).message ≠ announcement (.string expression) := by
  unfold brokenRecord announcement
  rw [String.append_assoc]
  cases model with
  | schema => exact append_ne_append (i := 0) (by decide) (by decide) (by decide) _ _
  | credentialDefinition =>
    exact append_ne_append (i := 1) (by decide) (by decide) (by decide) _ _

theorem failedRecord_ne_announcement (path expression : String) :
    (failedRecord path).message ≠ announcement (.string expression) := by
  unfold failedRecord announcement
  rw [String.append_assoc]
  exact append_ne_append (i := 0) (by decide) (by decide) (by decide) _ _

/-- What is logged on a document is no compilation. -/
theorem timesLogged_judged_failures (item : Item) (expression : String) :
    timesLogged (announcement (.string expression)) (item.judged fs ++ item.failures fs) = 0 := by
  refine timesLogged_eq_zero fun r hr => ?_
  rcases List.mem_append.1 hr with hr | hr
  · obtain ⟨model, message, rfl⟩ := eq_of_mem_judged hr
    exact brokenRecord_ne_announcement model message expression
  · obtain ⟨path, rfl⟩ := eq_of_mem_failures hr
    exact failedRecord_ne_announcement path expression

theorem announcement_ne : announcement (.string uriExpression) ≠
    announcement (.string legacyExpression) := by
  decide +kernel

theorem timesLogged_uri_announced (before tested : List String) :
    timesLogged (announcement (.string uriExpression)) (announced before tested) =
      if tested.any (fun _ => true) && !before.any (fun _ => true) then 1 else 0 := by
  unfold announced announcedFor
  rw [timesLogged_append]
  cases tested.any (fun _ => true) && !before.any (fun _ => true) <;>
    cases tested.any needsLegacy && !before.any needsLegacy <;>
    simp [timesLogged, compiledRecord, announcement_ne.symm]

theorem timesLogged_legacy_announced (before tested : List String) :
    timesLogged (announcement (.string legacyExpression)) (announced before tested) =
      if tested.any needsLegacy && !before.any needsLegacy then 1 else 0 := by
  unfold announced announcedFor
  rw [timesLogged_append]
  cases tested.any (fun _ => true) && !before.any (fun _ => true) <;>
    cases tested.any needsLegacy && !before.any needsLegacy <;>
    simp [timesLogged, compiledRecord, announcement_ne]

/-- A compilation is logged at most once, and not at all if the pattern was needed before. -/
theorem timesLogged_recordsOf_le {expression : String} {needs : String → Bool}
    (hannounced : ∀ before tested,
      timesLogged (announcement (.string expression)) (announced before tested) =
        if tested.any needs && !before.any needs then 1 else 0)
    (before : List String) (items : List Item) :
    timesLogged (announcement (.string expression)) (recordsOf fs before items) ≤
      if before.any needs then 0 else 1 := by
  induction items generalizing before with
  | nil => exact Nat.zero_le _
  | cons item items ih =>
    have hrest := ih (before ++ item.tested fs)
    rw [recordsOf, Item.records, List.append_assoc (announced _ _), timesLogged_append,
      timesLogged_append, hannounced, timesLogged_judged_failures]
    rw [List.any_append] at hrest
    generalize before.any needs = old at hrest ⊢
    generalize (item.tested fs).any needs = new at hrest ⊢
    cases old <;> cases new <;> simp at hrest ⊢ <;> omega

/-- **No compilation is logged twice.** -/
theorem timesLogged_announcement_le (items : List Item) :
    ∀ expression ∈ [uriExpression, legacyExpression],
      timesLogged (announcement (.string expression)) (recordsOf fs [] items) ≤ 1 := by
  rw [List.forall_mem_cons, List.forall_mem_singleton]
  exact ⟨timesLogged_recordsOf_le timesLogged_uri_announced [] items,
    timesLogged_recordsOf_le timesLogged_legacy_announced [] items⟩

end CommandLine

end CredentialCheck
