import CredentialCheck.Proofs.CommandLine.Records
import CredentialCheck.Proofs.CommandLine.SideBySide
import CredentialCheck.Proofs.Pattern.Touches
import Mathlib.Data.List.TakeWhile

/-!
# What the items of a run log

What an item logs depends on itself, and on the patterns that have been compiled so far, which is
all that an item has to know of those before it. So the records of a run are those of its items, one
after the other, up to an item that cannot be looked at. What the log makes of them is another
matter: the tree is the one that has been handed these records.

* `Known` is what is known of the patterns, and a `Trace` says what an action logs and how the
  knowledge changes.
* `emitAll` is what records do to the tree, `Journal` says what has been logged so far.
* `Logs` says which trace an action has; `logs_checkAll` is about the items of a run.
-/

namespace CredentialCheck

open Pattern (announcement uriExpression uriFlags legacyExpression)

namespace CommandLine

open Document Text

/-! ## Patterns -/

/-- Which of the shared patterns have been compiled. -/
structure Known where
  uri : Bool
  legacy : Bool

/-- The shared cells. -/
def Known.shared (k : Known) : Pattern.Shared where
  uri := Pattern.Entry.cell ⟨.string uriExpression, uriFlags, k.uri⟩
  legacy := Pattern.Entry.cell ⟨.string legacyExpression, .none, k.legacy⟩

/-- The patterns compiled when texts have been tested. -/
def Known.after (texts : List String) : Known :=
  ⟨texts.any fun _ => true, texts.any needsLegacy⟩

theorem Known.shared_sound (k : Known) : k.shared.Sound :=
  ⟨Pattern.Entry.cell_for _ _ _, Pattern.Entry.cell_for _ _ _⟩

/-- The expressions that a test of a URI identifier compiles. -/
def Known.uriNews (k : Known) : List String := if k.uri then [] else [uriExpression]

/-- The expressions that a test of a legacy identifier compiles. -/
def Known.legacyNews (k : Known) : List String := if k.legacy then [] else [legacyExpression]

theorem Known.isUri (k : Known) (s : String) :
    k.shared.isUri (.string s) = (Identifier.isUri (.string s), { k with uri := true }.shared,
      k.uriNews.map fun e => announcement (.string e)) := by
  have hanswer := (k.shared_sound.isUri (.string s)).1
  have hwell : Pattern.Entry.isWellFormed ⟨.string uriExpression, uriFlags, k.uri⟩ = true := rfl
  rw [← hanswer]
  simp only [Pattern.Shared.isUri, Pattern.Cell.fullmatch_eq, Known.shared, Pattern.Entry.get_cell,
    Pattern.Entry.announcements, hwell, Known.uriNews]
  cases k.uri <;> rfl

theorem Known.isLegacy (k : Known) (s : String) :
    k.shared.isLegacy (.string s) = (Identifier.isLegacy (.string s),
      { k with legacy := true }.shared, k.legacyNews.map fun e => announcement (.string e)) := by
  have hanswer := (k.shared_sound.isLegacy (.string s)).1
  have hwell : Pattern.Entry.isWellFormed ⟨.string legacyExpression, .none, k.legacy⟩ = true := rfl
  rw [← hanswer]
  simp only [Pattern.Shared.isLegacy, Pattern.Cell.fullmatch_eq, Known.shared,
    Pattern.Entry.get_cell, Pattern.Entry.announcements, hwell, Known.legacyNews]
  cases k.legacy <;> rfl

/-! ## Traces -/

/-- What is logged, and what is known afterwards. -/
abbrev Trace := Known → List Log.Record × Known

namespace Trace

/-- Records that do not depend on what is known. -/
def const (records : List Log.Record) : Trace := fun k => (records, k)

/-- One trace behind the other. -/
def andThen (t u : Trace) : Trace := fun k => ((t k).1 ++ (u (t k).2).1, (u (t k).2).2)

/-- The trace of a test for a URI identifier. -/
def uri : Trace := fun k => (k.uriNews.map compiledRecord, { k with uri := true })

/-- The trace of a test for a legacy identifier. -/
def legacy : Trace := fun k => (k.legacyNews.map compiledRecord, { k with legacy := true })

/-- Both tests compile what is new of the two patterns. -/
theorem uri_andThen_legacy : uri.andThen legacy =
    fun k => ((k.uriNews ++ k.legacyNews).map compiledRecord, ⟨true, true⟩) := by
  funext k
  rw [List.map_append]
  rfl

/-- The trace of a test for an identifier. -/
def test (s : String) : Trace :=
  if Identifier.isUri (.string s) then uri else uri.andThen legacy

/-- The trace of tests, one after the other. -/
def tests : List String → Trace
  | [] => const []
  | s :: texts => (test s).andThen (tests texts)

@[simp] theorem andThen_const_nil (t : Trace) : t.andThen (const []) = t := by
  funext k
  simp [andThen, const]

theorem andThen_assoc (t u v : Trace) : (t.andThen u).andThen v = t.andThen (u.andThen v) := by
  funext k
  simp [andThen, List.append_assoc]

theorem const_andThen_const (records more : List Log.Record) :
    (const records).andThen (const more) = const (records ++ more) := rfl

/-- A second test of the same text logs nothing. -/
theorem test_andThen_test (s : String) : (test s).andThen (test s) = test s := by
  funext k
  unfold test
  split <;>
    simp [andThen, uri, legacy, Known.uriNews, Known.legacyNews]

theorem test_after (before : List String) (s : String) :
    test s (Known.after before) = (announced before [s], Known.after (before ++ [s])) := by
  unfold test
  cases hs : Identifier.isUri (.string s) <;> cases hold : before.any fun _ => true <;>
    cases hlegacy : before.any needsLegacy <;>
    simp [andThen, uri, legacy, announced, announcedFor, Known.after, Known.uriNews,
      Known.legacyNews, needsLegacy, hs, hold, hlegacy]

/-- What tests log is what is announced at the texts. -/
theorem tests_after (before tested : List String) :
    tests tested (Known.after before) =
      (announced before tested, Known.after (before ++ tested)) := by
  induction tested generalizing before with
  | nil => rw [announced_nil, List.append_nil]; rfl
  | cons s tested ih =>
    rw [tests, andThen, test_after, ih, announced_cons before s tested, List.append_assoc]
    rfl

end Trace

/-! ## The log -/

/-- The tree when records have been handed to the root, one after the other. -/
def emitAll (root : Log.Root) (stamp : String) (fs : FileSystem) (records : List Log.Record) :
    FileSystem :=
  records.foldl (fun fs r => (root.emit fs stamp r).2) fs

/-- A log that has been set up. -/
structure OpenedLog where
  /-- The tree in which the log file is there. -/
  tree : FileSystem
  root : Log.Root
  stamp : String
  /-- A property of the tree that no record takes from it. -/
  Holds : FileSystem → Prop

/-- What is read at the path does not depend on what has been logged. -/
def OpenedLog.Reads (j : OpenedLog) (path : String) : Prop :=
  ∀ fs, j.Holds fs → fs.readText (.text path) = j.tree.readText (.text path)

/-- The world when the patterns are as is known, and the records have been logged. -/
structure Journal (j : OpenedLog) (k : Known) (records : List Log.Record) (w : World) : Prop where
  ready : w.Ready j.Holds
  log : w.log = j.root
  stamp : w.stamp = j.stamp
  patterns : w.patterns = k.shared
  files : w.files = emitAll j.root j.stamp j.tree records

/-! ## Actions -/

/-- The action logs as the trace says. -/
def Logs (j : OpenedLog) {α : Type} (x : Action α) (t : Trace) : Prop :=
  ∀ k records, Brings (Journal j k records) x (Journal j (t k).2 (records ++ (t k).1))

section

variable {j : OpenedLog} {α β : Type} {t u : Trace}

theorem Logs.pure (a : α) : Logs j (Pure.pure a : Action α) (.const []) := fun k records w h => by
  rw [Trace.const, List.append_nil]
  exact h

/-- An action whose result is known, and then another. -/
theorem Logs.bind {x : Action α} (hx : Logs j x t) {a : α} {lines : List String}
    (hresult : Yields j.Holds x a lines) {f : α → Action β} (hf : Logs j (f a) u) :
    Logs j (x >>= f) (t.andThen u) := by
  intro k records w h
  obtain ⟨w', hrun, -⟩ := hresult w h.ready
  have hafter := hf _ _ _ (hx k records w h)
  rw [List.append_assoc] at hafter
  change Journal j _ _ ((f (x.run w).1).run (x.run w).2).2
  rw [hrun] at hafter ⊢
  exact hafter

/-- An action whose result is known, and then another that logs nothing. -/
theorem Logs.bind_last {x : Action α} (hx : Logs j x t) {a : α} {lines : List String}
    (hresult : Yields j.Holds x a lines) {f : α → Action β}
    (hf : Logs j (f a) (.const [])) : Logs j (x >>= f) t := by
  have hboth := hx.bind hresult hf
  rwa [Trace.andThen_const_nil] at hboth

/-- An action whatever its result is, and then another that logs nothing. -/
theorem Logs.bind_silent {x : Action α} (hx : Logs j x t) {f : α → Action β}
    (hf : ∀ a, Logs j (f a) (.const [])) : Logs j (x >>= f) t := by
  intro k records w h
  have hafter := hf (x.run w).1 _ _ _ (hx k records w h)
  rw [Trace.const, List.append_nil] at hafter
  exact hafter

/-- An action that looks at the world first. -/
theorem Logs.get {f : World → Action α}
    (h : ∀ w : World, w.Ready j.Holds → Logs j (f w) t) :
    Logs j (MonadState.get >>= f) t := fun k records w hw => h w hw.ready k records w hw

/-! ## Single actions -/

theorem logs_record (logger : String) (level : Int) (message : String) :
    Logs j (record logger level message) (.const [⟨logger, .number level, message⟩]) := by
  intro k records w h
  obtain ⟨w', hrun, hready, -⟩ := yields_record logger level message w h.ready
  have hafter : ((record logger level message).run w).2 = w' := by rw [hrun]
  refine ⟨hafter ▸ hready, h.log, h.stamp, h.patterns, ?_⟩
  rw [Trace.const, emitAll, List.foldl_concat, ← emitAll, ← h.files, ← h.log, ← h.stamp]
  rfl

theorem logs_forM_compiled (expressions : List String) :
    Logs j
      ((expressions.map fun e => announcement (.string e)).forM
        (record "anoncreds_validation.core.patterns" 10))
      (.const (expressions.map compiledRecord)) := by
  induction expressions with
  | nil => exact .pure ()
  | cons e expressions ih =>
    have hfirst : Logs j (record "anoncreds_validation.core.patterns" 10 (announcement (.string e)))
        (.const [compiledRecord e]) := logs_record _ _ _
    let rest : Action Unit := (expressions.map fun e => announcement (.string e)).forM
      (record "anoncreds_validation.core.patterns" 10)
    exact Logs.bind (f := fun _ => rest) hfirst (yields_record _ _ _) ih

/-- A test compiles what is new. -/
theorem logs_testWith {test : Pattern.Shared → Value → Bool × Pattern.Shared × List String}
    {v : Value} {news : Known → List String} {next : Known → Known}
    (htest : ∀ k : Known, (test k.shared v).2 =
      ((next k).shared, (news k).map fun e => announcement (.string e))) :
    Logs j (testWith test v) fun k => ((news k).map compiledRecord, next k) := by
  intro k records w h
  have hpatterns : (test w.patterns v).2.1 = (next k).shared := by rw [h.patterns, htest]
  have hnews : (test w.patterns v).2.2 = (news k).map fun e => announcement (.string e) := by
    rw [h.patterns, htest]
  have htested : Journal j (next k) records { w with patterns := (test w.patterns v).2.1 } := by
    refine ⟨⟨?_, h.ready.console, h.ready.keeps, h.ready.files⟩, h.log, h.stamp, ?_, h.files⟩
    · exact hpatterns ▸ (next k).shared_sound
    · exact hpatterns
  have hafter := logs_forM_compiled (news k) (next k) records _ htested
  rw [← hnews] at hafter
  exact hafter

theorem logs_isUri (s : String) :
    Logs j (testWith Pattern.Shared.isUri (.string s)) Trace.uri :=
  logs_testWith fun k => by rw [k.isUri]

theorem logs_isLegacy (s : String) :
    Logs j (testWith Pattern.Shared.isLegacy (.string s)) Trace.legacy :=
  logs_testWith fun k => by rw [k.isLegacy]

theorem yields_isUri (s : String) :
    Yields j.Holds (testWith Pattern.Shared.isUri (.string s))
      (Identifier.isUri (.string s)) [] := yields_testWith fun _ h => h.isUri _

theorem yields_isLegacy (s : String) :
    Yields j.Holds (testWith Pattern.Shared.isLegacy (.string s))
      (Identifier.isLegacy (.string s)) [] := yields_testWith fun _ h => h.isLegacy _

theorem yields_isIdentifier (s : String) :
    Yields j.Holds (testWith Pattern.Shared.isIdentifier (.string s))
      (Identifier.isIdentifier (.string s)) [] := yields_testWith fun _ h => h.isIdentifier _

theorem logs_isIdentifier (s : String) :
    Logs j (testWith Pattern.Shared.isIdentifier (.string s)) (Trace.test s) := by
  unfold Trace.test
  cases huri : Identifier.isUri (.string s) with
  | true =>
    refine logs_testWith fun k => ?_
    rw [Pattern.Shared.isIdentifier, k.isUri, huri]
  | false =>
    rw [if_neg Bool.false_ne_true, Trace.uri_andThen_legacy]
    refine logs_testWith fun k => ?_
    rw [Pattern.Shared.isIdentifier, k.isUri, huri]
    dsimp only
    rw [Known.isLegacy, List.map_append]
    rfl

theorem logs_printLine (text : String) : Logs j (printLine .output text) (.const []) := by
  intro k records w h
  obtain ⟨w', hrun, hready, -⟩ := yields_printLine text w h.ready
  have hafter := run_printLine h.ready.console .output text
  rw [hafter] at hrun
  cases hrun
  rw [hafter, Trace.const, List.append_nil]
  exact ⟨hready, h.log, h.stamp, h.patterns, h.files⟩

/-! ## Identifiers -/

theorem logs_classifyIdentifier (s : String) : Logs j (classifyIdentifier s) (.test s) := by
  unfold Trace.test
  cases huri : Identifier.isUri (.string s) with
  | true => exact (logs_isUri s).bind_last (huri ▸ yields_isUri s) (.pure _)
  | false =>
    refine (logs_isUri s).bind (huri ▸ yields_isUri s) ?_
    refine (logs_isLegacy s).bind_last (yields_isLegacy s) ?_
    cases Identifier.isLegacy (.string s) <;> exact .pure _

theorem logs_acceptsIdentifier (s : String) (asked : Value) :
    Logs j (acceptsIdentifier s asked) (.test s) := by
  refine (logs_classifyIdentifier s).bind_last (yields_classifyIdentifier s) ?_
  cases Identifier.classify (.string s) <;> exact .pure _

/-- An identifier is classified twice, and what is new is logged once. -/
theorem logs_checkIdentifier (asked : Value) (s : String) :
    Logs j (checkIdentifier asked s) (.test s) := by
  rw [← Trace.test_andThen_test]
  refine (logs_classifyIdentifier s).bind (yields_classifyIdentifier s) ?_
  refine (logs_acceptsIdentifier s asked).bind_last (yields_acceptsIdentifier s asked) ?_
  exact (logs_printLine _).bind_last (yields_printLine _) (.pure _)

/-! ## Documents -/

theorem logs_verdictWith (d : Document) :
    Logs j (d.draft.verdictWith (testWith Pattern.Shared.isIdentifier)) (.tests d.tested) := by
  cases d with
  | schema s =>
    refine (logs_isIdentifier s.issuerId).bind (yields_isIdentifier s.issuerId) ?_
    cases Identifier.isIdentifier (.string s.issuerId) with
    | false => exact .pure _
    | true => cases s.draft.attrNames.isTruthy <;> exact .pure _
  | credentialDefinition c =>
    cases hid : Identifier.isIdentifier (.string c.schemaId) with
    | false =>
      have htested : (Document.credentialDefinition c).tested = [c.schemaId] :=
        if_neg (by simp [hid])
      rw [htested]
      exact (logs_isIdentifier c.schemaId).bind (hid ▸ yields_isIdentifier c.schemaId) (.pure _)
    | true =>
      have htested : (Document.credentialDefinition c).tested = [c.schemaId, c.issuerId] :=
        if_pos hid
      rw [htested]
      refine (logs_isIdentifier c.schemaId).bind (hid ▸ yields_isIdentifier c.schemaId) ?_
      refine (logs_isIdentifier c.issuerId).bind (yields_isIdentifier c.issuerId) ?_
      cases Identifier.isIdentifier (.string c.issuerId) with
      | false => exact .pure _
      | true => cases c.draft.type.equal (.string signatureType) <;> exact .pure _

/-- What is logged on a document by itself. -/
def Trace.document (model : Model) (d? : Option Document) : Trace :=
  (tests ((d?.map Document.tested).getD [])).andThen
    (const ((d?.bind Document.complaint?).toList.map (brokenRecord model)))

theorem logs_loadText (model : Model) (text : String) : Logs j (loadText model text)
    (.document model (Document.parse model (.string text)).toOption) := by
  unfold loadText
  cases Document.parse model (.string text) with
  | error issues => exact .pure _
  | ok d =>
    have hverdict : d.draft.verdict = .ok (d.complaint?.map fun m => ⟨.string m⟩) := d.verdict_eq
    have hresult : Yields j.Holds
        (d.draft.verdictWith (testWith Pattern.Shared.isIdentifier)) d.draft.verdict [] :=
      yields_verdictWith d.draft
    rw [hverdict] at hresult
    refine (logs_verdictWith d).bind hresult ?_
    dsimp only [Except.toOption, Option.bind]
    cases d.complaint? with
    | none => exact .pure _
    | some m => exact (logs_record _ _ _).bind_last (yields_record _ _ _) (.pure _)

theorem yields_loadFile (model : Model) {path : String} (h : '\x00' ∉ path.toList)
    (hpath : j.Reads path) :
    Yields j.Holds (loadFile model path) (.ok (fileReason? j.tree model path)) [] := by
  intro w hw
  have hload := yieldsFrom_loadFile hw model h
  rwa [fileReason?, hpath _ hw.files, ← fileReason?] at hload

theorem logs_loadFile (model : Model) {path : String} (h : '\x00' ∉ path.toList)
    (hpath : j.Reads path) :
    Logs j (loadFile model path) (.document model (document? j.tree model path)) := by
  refine .get fun w hw => ?_
  have hnull := j.tree.readText_ne_nullInPath h
  rw [hpath _ hw.files]
  unfold document?
  cases hread : j.tree.readText (.text path) with
  | ok text => exact logs_loadText model text
  | error fault =>
    cases fault with
    | nullInPath => exact absurd hread hnull
    | errno | notUtf8 => exact .pure _

/-- What is logged at an item. -/
def Item.trace (fs : FileSystem) (item : Item) : Trace :=
  (Trace.tests (item.tested fs)).andThen (.const (item.judged fs ++ item.failures fs))

theorem logs_checkDocument (asked : Value) (model : Model) {path : String}
    (h : '\x00' ∉ path.toList) (hpath : j.Reads path) :
    Logs j (checkItem asked (.document model (.string path)))
      (Item.trace j.tree (.document model (.string path))) := by
  have htrace : Item.trace j.tree (.document model (.string path)) =
      (Trace.document model (document? j.tree model path)).andThen
        (.const (Item.failures j.tree (.document model (.string path)))) := by
    rw [Item.trace, ← Trace.const_andThen_const, ← Trace.andThen_assoc]
    rfl
  rw [htrace]
  refine (logs_loadFile model h hpath).bind (yields_loadFile model h hpath) ?_
  cases hreason : fileReason? j.tree model path with
  | none =>
    have hfailures : Item.failures j.tree (.document model (.string path)) = [] :=
      if_neg (by simp [Value.display, hreason])
    rw [hfailures]
    exact (logs_printLine _).bind_last (yields_printLine _) (.pure _)
  | some reason =>
    have hfailures : Item.failures j.tree (.document model (.string path)) = [failedRecord path] :=
      if_pos (by simp [Value.display, hreason])
    have hrecord : Logs j (record "anoncreds_validation.cli.cli" 20
        ("Validation of " ++ path ++ " failed")) (.const [failedRecord path]) :=
      logs_record _ _ _
    rw [hfailures]
    refine hrecord.bind_last (yields_record _ _ _) ?_
    exact (logs_printLine _).bind_last (yields_printLine _) (.pure _)

end

/-! ## Items -/

/-- Whether an item can be looked at: it is an identifier, or the path is one for the system. -/
def Item.isProper : Item → Bool
  | .identifier _ => true
  | .document _ (.string path) => !path.toList.contains '\x00'
  | .document _ _ => false

/-- What is logged at items, one after the other. -/
def traceOf (fs : FileSystem) : List Item → Trace
  | [] => .const []
  | item :: items => (item.trace fs).andThen (traceOf fs items)

theorem traceOf_after (fs : FileSystem) (before : List String) (items : List Item) :
    (traceOf fs items (.after before)).1 = recordsOf fs before items := by
  induction items generalizing before with
  | nil => rfl
  | cons item items ih =>
    simp only [traceOf, Item.trace, Trace.andThen, Trace.const, Trace.tests_after, ih, recordsOf,
      Item.records, List.append_assoc]

theorem readText_of_null (fs : FileSystem) {path : String} (h : '\x00' ∈ path.toList) :
    fs.readText (.text path) = .error .nullInPath := by
  have hbytes : 0 ∈ (Spelling.text path).toBytes :=
    List.mem_flatMap.2 ⟨'\x00', h, by decide⟩
  simp only [FileSystem.readText, FileSystem.readExact, FileSystem.readBytes, FileSystem.resolve,
    if_pos hbytes]
  rfl

/-- An item that cannot be looked at ends the checks. -/
theorem run_checkItem_of_not_isProper (asked : Value) {item : Item} (h : item.isProper = false)
    (w : World) : ∃ escape, (checkItem asked item).run w = (.error escape, w) := by
  cases item with
  | identifier s => cases h
  | document model path =>
    cases path with
    | string path =>
      have hnull : '\x00' ∈ path.toList := by simpa [Item.isProper] using h
      have hread := readText_of_null w.files hnull
      have hload : (loadFile model path).run w = (.error (.badPath .nullInPath), w) := by
        unfold loadFile
        rw [run_get_bind, hread]
        rfl
      refine ⟨.badPath .nullInPath, ?_⟩
      change (loadFile model path >>= _).run w = _
      rw [StateT.run_bind, hload]
      rfl
    | _ => exact ⟨_, rfl⟩

section

variable {j : OpenedLog}

theorem nullFree_of_isProper {item : Item} (h : item.isProper = true) : item.NullFree := by
  cases item with
  | identifier s => trivial
  | document model path =>
    cases path with
    | string path => exact ⟨path, rfl, by simpa [Item.isProper] using h⟩
    | _ => cases h

theorem isProper_of_nullFree {item : Item} (h : item.NullFree) : item.isProper = true := by
  cases item with
  | identifier s => rfl
  | document model path =>
    obtain ⟨path, rfl, hnull⟩ := h
    simpa [Item.isProper] using hnull

theorem yields_checkItem (asked : Value) {item : Item} (h : item.NullFree)
    (hpath : item.PathIs j.Reads) :
    Yields j.Holds (checkItem asked item) (.ok (item.report j.tree asked).valid)
      [(item.report j.tree asked).line] := by
  intro w hw
  have hread : item.PathIs fun path =>
      w.files.readText (.text path) = j.tree.readText (.text path) := by
    cases item with
    | identifier s => trivial
    | document model path => exact fun s hs => hpath s hs _ hw.files
  rw [← Item.report_congr h hread]
  exact yieldsFrom_checkItem hw asked h

theorem logs_checkItem (asked : Value) {item : Item} (h : item.NullFree)
    (hpath : item.PathIs j.Reads) :
    Logs j (checkItem asked item) (item.trace j.tree) := by
  cases item with
  | identifier s =>
    have htrace : Item.trace j.tree (.identifier s) = .test s := by
      simp [Item.trace, Item.tested, Item.judged, Item.failures, Trace.tests]
    rw [htrace]
    exact logs_checkIdentifier asked s
  | document model path =>
    obtain ⟨path, rfl, hnull⟩ := h
    exact logs_checkDocument asked model hnull (hpath path rfl)

/-- **The items are logged one after the other**, up to one that cannot be looked at. -/
theorem logs_checkAll (asked : Value) {items : List Item}
    (hpaths : ∀ item ∈ items, item.PathIs j.Reads) :
    Logs j (checkAll asked items) (traceOf j.tree (items.takeWhile Item.isProper)) := by
  induction items with
  | nil => exact .pure _
  | cons item items ih =>
    rw [List.forall_mem_cons] at hpaths
    cases hproper : item.isProper with
    | false =>
      rw [List.takeWhile_cons_of_neg (by simp [hproper])]
      intro k records w h
      obtain ⟨escape, hrun⟩ := run_checkItem_of_not_isProper asked hproper w
      have hall : (checkAll asked (item :: items)).run w = (.error escape, w) := by
        rw [checkAll, StateT.run_bind, hrun]
        rfl
      rw [hall]
      exact Logs.pure () k records w h
    | true =>
      have hnull := nullFree_of_isProper hproper
      rw [List.takeWhile_cons_of_pos hproper]
      refine (logs_checkItem asked hnull hpaths.1).bind (yields_checkItem asked hnull hpaths.1) ?_
      refine (ih hpaths.2).bind_silent fun result => ?_
      cases result <;> exact .pure _

end

end CommandLine

end CredentialCheck
