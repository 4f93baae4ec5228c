import CredentialCheck.Proofs.CommandLine.Growing
import CredentialCheck.Proofs.CommandLine.Statuses
import CredentialCheck.Proofs.CommandLine.Traces
import CredentialCheck.Proofs.Log.Entries

/-!
# The log of a run

What a run writes to its log file is determined by its items: the entries are those of the items'
records, from the level of the log on, in order. The file must not get full, for else it is moved.

* `entries` is what records leave in a file that just grows.
* `Arguments.StaysBelow` says that the file does not get full, and `fits_of_staysBelow` what that is
  good for.
* `run_journal` is the statement about whole runs, `content?_ne_entries` are runs with less in the
  log.
-/

namespace CredentialCheck

open Pattern (announcement uriExpression legacyExpression)

namespace CommandLine

open Document Text

/-! ## The log file of a run -/

/-- What records leave in a log file. -/
def entries (stamp : String) (records : List Log.Record) : List UInt8 :=
  records.flatMap fun r => Utf8.encode (r.line stamp).toList

/-- The log file does not get full: with the entries of all that the items have to log, what is in
it stays below the limit. -/
def Arguments.StaysBelow (a : Arguments) (opened : FileSystem) (place? : Option Path)
    (stamp : String) : Prop :=
  ∀ place before l, place? = some place → opened.content? place = some before →
    Log.Level.ofValue a.logLevel = .ok l →
      (before ++ entries stamp ((recordsOf opened [] (a.items.takeWhile Item.isProper)).filter
        fun r => l.value ≤ r.level.value)).length < Log.maxBytes

section

variable {env : List (String × String)} {argv : List String} {a : Arguments}
  {files opened : FileSystem} {place : Path} {place? : Option Path} {before : List UInt8}
  {l : Log.Level} {stamp : String}

/-- One more record behind the content of a log file that just grows. -/
theorem content?_emit {root : Log.Root} (honce : root.handlers.countP (Log.Handler.isAt place) = 1)
    (hgrows : ∀ h ∈ root.handlers, ∀ q whenFull, h.sink = .file q whenFull → whenFull = .grows)
    {fs : FileSystem} {content : List UInt8} (hcontent : fs.content? place = some content)
    {r : Log.Record} (hlevel : 0 < r.level.value) (stamp : String) :
    (root.emit fs stamp r).2.content? place = some (content ++
      if root.level.value ≤ r.level.value then Utf8.encode (r.line stamp).toList else []) := by
  have hadmits : root.admits r.level = true ↔ root.level.value ≤ r.level.value := by
    simp [Log.Root.admits, hlevel]
  by_cases hlogged : root.level.value ≤ r.level.value
  · have hfills : Log.FillsNone (fun _ => True) fs (r.line stamp) root.handlers :=
      fun x hx q whenFull _ hsink hlimited => absurd (hgrows x hx q whenFull hsink) hlimited
    have hwrite := Log.node?_write (fun _ _ _ _ => trivial) hfills (q := place) trivial
    rw [Log.lineAt, honce, List.replicate_one, List.flatten_singleton] at hwrite
    rw [Log.emit_snd r (hadmits.2 hlogged), FileSystem.content?_of_extended hwrite, hcontent,
      if_pos hlogged]
    rfl
  · rw [Log.Root.emit, if_neg (mt hadmits.1 hlogged), if_neg hlogged, List.append_nil]
    exact hcontent

/-- A log file that just grows has an entry for each record, from the level of the log on. -/
theorem content?_emitAll {root : Log.Root}
    (honce : root.handlers.countP (Log.Handler.isAt place) = 1)
    (hgrows : ∀ h ∈ root.handlers, ∀ q whenFull, h.sink = .file q whenFull → whenFull = .grows)
    {records : List Log.Record} (hlevels : ∀ r ∈ records, 0 < r.level.value) {fs : FileSystem}
    {content : List UInt8} (hcontent : fs.content? place = some content) :
    (emitAll root stamp fs records).content? place = some (content ++
      entries stamp (records.filter fun r => root.level.value ≤ r.level.value)) := by
  induction records generalizing fs content with
  | nil =>
    rw [List.filter_nil, entries, List.flatMap_nil, List.append_nil]
    exact hcontent
  | cons r records ih =>
    rw [List.forall_mem_cons] at hlevels
    have hrest := ih hlevels.2 (content?_emit honce hgrows hcontent hlevels.1 stamp)
    rw [emitAll, List.foldl_cons, ← emitAll, hrest, List.append_assoc]
    by_cases hlogged : root.level.value ≤ r.level.value
    · simp [hlogged, entries]
    · simp [hlogged]

/-- All records of a run have a level above zero. -/
theorem level_pos_of_mem_recordsOf {fs : FileSystem} {tested : List String} {items : List Item}
    {r : Log.Record} (h : r ∈ recordsOf fs tested items) : 0 < r.level.value := by
  have hall : (recordsOf fs tested items).filter (fun r => 10 ≤ r.level.value) =
      recordsOf fs tested items := filter_recordsOf_debug tested items
  have hlevel := List.filter_eq_self.1 hall r h
  rw [decide_eq_true_iff] at hlevel
  omega

/-- If the log file just grew, it would hold what it held before and the entries of the items'
records, from the level of the log on. -/
theorem content?_growing (hlog : openLog? files a.logFile = some (some place, opened))
    (hbefore : opened.content? place = some before)
    (hpaths : ∀ item ∈ a.items, item.PathIs fun path => ¬ opened.LeadsTo (.text path) place) :
    ((checkAll a.kind a.items).run ((World.fresh files stamp).opened l
        (Log.logSink? files a.logFile) opened).growing).2.files.content? place =
      some (before ++ entries stamp ((recordsOf opened [] (a.items.takeWhile Item.isProper)).filter
        fun r => l.value ≤ r.level.value)) := by
  obtain ⟨whenFull, hsink⟩ := logSink?_of_openLog? hlog
  rw [hsink, Option.map_some]
  let root : Log.Root := (openedRoot .fresh l (some (.file place whenFull))).growing
  have hhandlers : root.handlers = [⟨0, .stream⟩, ⟨1, .file place .grows⟩] := rfl
  have honce : root.handlers.countP (Log.Handler.isAt place) = 1 := by
    rw [hhandlers]
    simp [Log.Handler.isAt, Log.Sink.place?]
  have hgrows : ∀ h ∈ root.handlers, ∀ q whenFull, h.sink = .file q whenFull →
      whenFull = .grows := by
    rw [hhandlers, List.forall_mem_cons, List.forall_mem_singleton]
    constructor <;> rintro q whenFull ⟨⟩
    rfl
  have hreaches : root.ReachesOnly (· = place) fun _ => False := by
    rw [Log.Root.ReachesOnly, hhandlers, List.forall_mem_cons, List.forall_mem_singleton]
    exact ⟨trivial, rfl, by rintro ⟨⟩⟩
  let j : OpenedLog := ⟨opened, root, stamp, opened.SameBut (· = place) fun _ => False⟩
  let started : World := ((World.fresh files stamp).opened l (some (.file place whenFull))
    opened).growing
  have hjournal : Journal j (.after []) [] started :=
    ⟨ready_reachesOnly Pattern.Shared.sound_fresh rfl hreaches rfl, rfl, rfl, rfl, rfl⟩
  have hreads : ∀ item ∈ a.items, item.PathIs j.Reads := fun item hitem =>
    (hpaths item hitem).mono fun path hpath fs hfs =>
      hfs.readText ⟨fun other hother => hother ▸ hpath, fun _ _ => id⟩
  have hafter := (logs_checkAll a.kind hreads (.after []) [] started hjournal).files
  rw [List.nil_append, traceOf_after] at hafter
  rw [hafter]
  exact content?_emitAll honce hgrows (fun r => level_pos_of_mem_recordsOf) hbefore

/-- **A log file that stays below the limit is not full behind the checks**, also where it is a
device. -/
theorem fits_of_staysBelow (hlog : openLog? files a.logFile = some (place?, opened))
    (hlevel : Log.Level.ofValue a.logLevel = .ok l)
    (hpaths : ∀ item ∈ a.items, item.PathIs fun path =>
      ∀ place, place? = some place → ¬ opened.LeadsTo (.text path) place)
    (hbelow : a.StaysBelow opened place? stamp) :
    ((World.fresh files stamp).opened l (Log.logSink? files a.logFile) opened).Fits a := by
  have hsink := place?_logSink? hlog
  intro h hh place whenFull content hfile _ hcontent
  have hreach := reachesOnly_openedRoot Log.Root.fresh l hsink h hh
  rw [hfile] at hreach
  obtain rfl := writtenBy_nil.1 hreach.1
  cases hbefore : opened.content? place with
  | some before =>
    have hspared : ∀ item ∈ a.items, item.PathIs fun path =>
        ¬ opened.LeadsTo (.text path) place := fun item hitem =>
      (hpaths item hitem).mono fun _ hpath => hpath place rfl
    rw [content?_growing hlog hbefore hspared] at hcontent
    cases hcontent
    exact hbelow place before l rfl hbefore hlevel
  | none =>
    -- what is no file before the checks is none behind them
    have hspared : ∀ item ∈ a.items, item.PathIs fun path =>
        opened.Avoids (WrittenBy [] (some place)) (fun _ => False) (.text path) := fun item hitem =>
      (hpaths item hitem).mono fun _ hpath =>
        ⟨fun other hother => hpath other (writtenBy_nil.1 hother), fun _ _ => id⟩
    have hapart : World.Apart opened (WrittenBy [] (some place)) (fun _ => False)
        ((World.fresh files stamp).opened l (Log.logSink? files a.logFile) opened).growing :=
      ⟨Pattern.Shared.sound_fresh, (reachesOnly_openedRoot Log.Root.fresh l hsink).growing,
        .refl _ _ opened⟩
    have hafter := ((pervasive_alike opened (WrittenBy [] (some place)) fun _ => False).checkAll
      a.kind hspared _ _ ⟨hapart, hapart, .refl _⟩).2.left.files
    unfold FileSystem.content? at hcontent hbefore
    rcases hafter.node place id with heq | ⟨-, c, -, hfile, -⟩
    · rw [heq, hbefore] at hcontent
      cases hcontent
    · rw [hfile] at hbefore
      cases hbefore

/-- Behind a run the log file holds what it held before and the entries of the items' records, from
the level of the log on. -/
theorem content?_run (hparse : parse (.ofEnvironment env) argv = .ok a)
    (hlog : openLog? files a.logFile = some (some place, opened))
    (hbefore : opened.content? place = some before)
    (hpaths : ∀ path, .string path ∈ a.schemas ++ a.credentialDefinitions →
      ¬ opened.LeadsTo (.text path) place)
    (hlevel : Log.Level.ofValue a.logLevel = .ok l)
    (hbelow : a.StaysBelow opened (some place) stamp) :
    ((run (.ofEnvironment env) argv).run (.fresh files stamp)).2.files.content? place =
      some (before ++ entries stamp ((recordsOf opened [] (a.items.takeWhile Item.isProper)).filter
        fun r => l.value ≤ r.level.value)) := by
  have hitems : ∀ item ∈ a.items, item.PathIs fun path => ¬ opened.LeadsTo (.text path) place :=
    pathIs_of_mem_items hpaths
  have hfits := fits_of_staysBelow hlog hlevel
    (fun item hitem => (hitems item hitem).mono fun _ hpath => by
      rintro _ ⟨⟩
      exact hpath) hbelow
  let started : World :=
    (World.fresh files stamp).opened l (Log.logSink? files a.logFile) opened
  have hrun : (run (.ofEnvironment env) argv).run (.fresh files stamp) =
      (checkItems a).run started := run_of_openLog? hparse hlevel hlog
  have hfiles : ((checkItems a).run started).2.files =
      ((checkItems a).run started.growing).2.files :=
    (congrArg World.files (checkItems_of_fits hfits).2).trans rfl
  rw [hrun, hfiles, files_checkItems]
  exact content?_growing hlog hbefore hitems

/-- **The log of a run is determined by its items.** A run in a new process with a log file that is
not one of its documents, and that stays below the limit, writes to the file, at the level `DEBUG`,
the entries of the items' records one after the other: the compilation of each pattern at the first
item that needs it, the message on a document that breaks a rule, and last the failure of a
document. At the level `INFO` it writes the entries on failures only. No compilation is logged
twice. All items are in the log if no path of a document has a null character, and else those before
the first path with one, which ends the run. -/
theorem run_journal (hparse : parse (.ofEnvironment env) argv = .ok a)
    (hlog : openLog? files a.logFile = some (some place, opened))
    (hbefore : opened.content? place = some before)
    (hpaths : ∀ path, .string path ∈ a.schemas ++ a.credentialDefinitions →
      ¬ opened.LeadsTo (.text path) place)
    (hbelow : a.StaysBelow opened (some place) stamp) :
    let written := ((run (.ofEnvironment env) argv).run (.fresh files stamp)).2.files.content? place
    let checked := a.items.takeWhile Item.isProper
    (a.logLevel = .string "DEBUG" →
        written = some (before ++ entries stamp (recordsOf opened [] checked))) ∧
      (a.logLevel = .string "INFO" →
        written = some (before ++ entries stamp (checked.flatMap (·.failures opened)))) ∧
      (∀ expression ∈ [uriExpression, legacyExpression],
        timesLogged (announcement (.string expression)) (recordsOf opened [] checked) ≤ 1) ∧
      ((∀ path, .string path ∈ a.schemas ++ a.credentialDefinitions → '\x00' ∉ path.toList) →
        checked = a.items) := by
  refine ⟨fun hlevel => ?_, fun hlevel => ?_, timesLogged_announcement_le _, fun hnull => ?_⟩
  · have hl : Log.Level.ofValue a.logLevel = .ok (.number 10) := by
      rw [hlevel]
      rfl
    rw [content?_run hparse hlog hbefore hpaths hl hbelow]
    exact congrArg (fun records => some (before ++ entries stamp records))
      (filter_recordsOf_debug _ _)
  · have hl : Log.Level.ofValue a.logLevel = .ok (.number 20) := by
      rw [hlevel]
      rfl
    rw [content?_run hparse hlog hbefore hpaths hl hbelow]
    exact congrArg (fun records => some (before ++ entries stamp records))
      (filter_recordsOf_info _ _)
  · refine List.takeWhile_eq_self_iff.2 fun item hitem => ?_
    exact isProper_of_nullFree (nullFree_of_paths hparse hnull item hitem)

/-- A schema with a bad issuer, in which a carriage return ends the lines, one of them in front of a
line feed. -/
def returnsFile : List UInt8 := Utf8.encode
  "\x7b\r\n\"issuerId\": \"x\",\r\"name\": \"\", \"version\": \"1\"\r\x7d".toList

/-- The schema, and nothing else. -/
def returnsTree : FileSystem := (FileSystem.usual []).put [.ofText "s"] (.file returnsFile)

/-- A URI identifier, a text that is no identifier, and a schema with a bad issuer. -/
theorem run_journal_schema :
    ((run (.ofEnvironment []) ["--log-level", "DEBUG", "--log-file", "/log", "did:x:y", "nope",
        "--schema", "/s"]).run (.fresh returnsTree "now")).2.files.content? [.ofText "log"] =
      some (entries "now" [compiledRecord uriExpression, compiledRecord legacyExpression,
        brokenRecord .schema "Invalid issuer id: x", failedRecord "/s"]) := by
  have hparse : parse (.ofEnvironment []) ["--log-level", "DEBUG", "--log-file", "/log", "did:x:y",
      "nope", "--schema", "/s"] =
        .ok ⟨["did:x:y", "nope"], .string "any", [.string "/s"], [], .string "DEBUG",
          .string "/log"⟩ := rfl
  have hlog : openLog? returnsTree (.string "/log") =
      some (some [.ofText "log"], returnsTree.put [.ofText "log"] (.file [])) := rfl
  have hpaths (path : String) (h : .string path ∈ [Value.string "/s"] ++ []) :
      ¬ (returnsTree.put [.ofText "log"] (.file [])).LeadsTo (.text path) [.ofText "log"] := by
    cases List.mem_singleton.1 h
    rintro ⟨target, htarget, hplace⟩
    cases (show (returnsTree.put [.ofText "log"] (.file [])).resolve (.text "/s") =
      .ok (.node [.ofText "s"] (.file returnsFile)) from rfl).symm.trans htarget
    exact absurd hplace (by decide)
  have hbelow : Arguments.StaysBelow ⟨["did:x:y", "nope"], .string "any", [.string "/s"], [],
      .string "DEBUG", .string "/log"⟩ (returnsTree.put [.ofText "log"] (.file []))
      (some [.ofText "log"]) "now" := by
    rintro _ before l ⟨⟩ hbefore hlevel
    cases hbefore
    cases hlevel
    decide +kernel
  rw [(run_journal hparse hlog rfl hpaths hbelow).1 rfl]
  decide +kernel

end

/-! ## Runs with less in the log -/

/-- A command line with an identifier and a schema. -/
def sampleArgv (path : String) : List String :=
  ["--log-level", "DEBUG", "--log-file", "/log", "did:x:y", "--schema", path]

/-- What that command line asks for. -/
def sampleArguments (path : String) : Arguments :=
  ⟨["did:x:y"], .string "any", [.string path], [], .string "DEBUG", .string "/log"⟩

/-- The place of its log file. -/
def sampleLog : Path := [.ofText "log"]

/-- The tree in which its log file has been opened. -/
def sampleOpened : FileSystem := (FileSystem.usual []).put sampleLog (.file [])

theorem parse_sampleArgv {path : String} (h : path.toList.head? ≠ some '-') :
    parse (.ofEnvironment []) (sampleArgv path) = .ok (sampleArguments path) := by
  have hlevel : classify "--log-level" = .ok (.option .logLevel "--log-level" none) := rfl
  have hdebug : classify "DEBUG" = .ok .plain := rfl
  have hfile : classify "--log-file" = .ok (.option .logFile "--log-file" none) := rfl
  have hlog : classify "/log" = .ok .plain := rfl
  have hidentifier : classify "did:x:y" = .ok .plain := rfl
  have hschema : classify "--schema" = .ok (.option .schema "--schema" none) := rfl
  simp only [parse, sampleArgv, classifyAll, hlevel, hdebug, hfile, hlog, hidentifier, hschema,
    classify_plain h]
  rfl

/-- The records of the command line when the schema cannot be read. -/
theorem recordsOf_sampleArguments (fs : FileSystem) {path : String} {fault : FileSystem.Fault}
    (h : fs.readText (.text path) = .error fault) :
    recordsOf fs [] (sampleArguments path).items =
      [compiledRecord uriExpression, failedRecord path] := by
  have hitems : (sampleArguments path).items =
      [.identifier "did:x:y", .document .schema (.string path)] := rfl
  have hfirst : Item.records fs [] (.identifier "did:x:y") = [compiledRecord uriExpression] := rfl
  have hfailures : Item.failures fs (.document .schema (.string path)) = [failedRecord path] := by
    rw [Item.failures, Value.display, fileReason?, h]
    rfl
  have hdocument : document? fs .schema path = none := by rw [document?, h]
  rw [hitems, recordsOf, recordsOf, recordsOf, hfirst, Item.records, hfailures]
  simp only [Item.tested, Item.judged, Value.display, hdocument, Option.map_none, Option.getD_none,
    announced_nil]
  rfl

theorem readText_of_long (fs : FileSystem) {path : String} (hnull : '\x00' ∉ path.toList)
    (hlong : FileSystem.pathBytesBound ≤ path.length) :
    fs.readText (.text path) = .error (.errno .nameTooLong (.text path)) := by
  have hbytes : 0 ∉ (Spelling.text path).toBytes := mt Utf8.null_mem_of_zero_mem hnull
  have hlength : FileSystem.pathBytesBound ≤ (Spelling.text path).toBytes.length :=
    hlong.trans (FileSystem.length_le_length_encode path)
  have hsome : (Spelling.text path).toBytes.isEmpty = false := by
    rw [← Bool.not_eq_true, List.isEmpty_iff_length_eq_zero]
    exact Nat.ne_of_gt (Nat.lt_of_lt_of_le (by decide) hlength)
  simp only [FileSystem.readText, FileSystem.readExact, FileSystem.readBytes, FileSystem.resolve,
    if_neg hbytes, hsome, if_pos hlength, Bool.false_eq_true, if_false]
  rfl

/-- When the path is so long that the record on it fills the log file, this record is all that is
left there. -/
theorem content?_of_long {path : String} (hhead : path.toList.head? ≠ some '-')
    (hnull : '\x00' ∉ path.toList) (hlong : Log.maxBytes ≤ path.length) :
    ((run (.ofEnvironment []) (sampleArgv path)).run
        (.fresh (.usual []) "now")).2.files.content? sampleLog =
      some (entries "now" [failedRecord path]) := by
  have hparse := parse_sampleArgv hhead
  have hread (fs : FileSystem) := readText_of_long fs hnull
    (Nat.le_trans (by simp [FileSystem.pathBytesBound, Log.maxBytes]) hlong)
  have hlog : openLog? (.usual []) (.string "/log") = some (some sampleLog, sampleOpened) := rfl
  let started : World := (World.fresh (.usual []) "now").opened (.number 10)
    (some (.file sampleLog .rollsOver)) sampleOpened
  have hrun : (run (.ofEnvironment []) (sampleArgv path)).run (.fresh (.usual []) "now") =
      (checkItems (sampleArguments path)).run started := run_of_openLog? hparse rfl hlog
  -- both records are handed to the log
  let j : OpenedLog := ⟨sampleOpened, started.log, "now", fun _ => True⟩
  have hjournal : Journal j (.after []) [] started :=
    ⟨⟨Pattern.Shared.sound_fresh, rfl, fun _ _ _ => trivial, trivial⟩, rfl, rfl, rfl, rfl⟩
  have hreads : ∀ item ∈ (sampleArguments path).items, item.PathIs j.Reads := by
    refine pathIs_of_mem_items fun other hother => ?_
    cases List.mem_singleton.1 hother
    exact fun fs _ => (hread fs).trans (hread _).symm
  have hproper : (sampleArguments path).items.takeWhile Item.isProper =
      (sampleArguments path).items := by
    refine List.takeWhile_eq_self_iff.2 fun item hitem => isProper_of_nullFree ?_
    refine nullFree_of_paths hparse (fun other hother => ?_) item hitem
    cases List.mem_singleton.1 hother
    exact hnull
  have hafter :=
    (logs_checkAll (sampleArguments path).kind hreads (.after []) [] started hjournal).files
  rw [List.nil_append, traceOf_after, hproper, recordsOf_sampleArguments _ (hread _)] at hafter
  -- the second one fills the file
  let first := entries "now" [compiledRecord uriExpression]
  let written := emitAll started.log "now" sampleOpened [compiledRecord uriExpression]
  have hcontent : written.content? sampleLog = some first := by decide +kernel
  have hmap : (written.rollOver sampleLog first).map (·.node? sampleLog) =
      some (some (.file [])) := by
    decide +kernel
  obtain ⟨rolled, hrolled, hnode⟩ := Option.map_eq_some_iff.1 hmap
  have hfull : FileSystem.wouldFill first ((failedRecord path).line "now") = true := by
    refine decide_eq_true ?_
    simp only [failedRecord, Log.Record.line, String.length_append]
    omega
  have hemit : emitAll started.log "now" sampleOpened
      [compiledRecord uriExpression, failedRecord path] =
        rolled.append sampleLog (Utf8.encode ((failedRecord path).line "now").toList) :=
    Log.emit_full rfl rfl hcontent hfull hrolled
  rw [hrun, files_checkItems, hafter, hemit, FileSystem.content?, FileSystem.node?_append,
    if_pos rfl, hnode]
  simp [FileSystem.extended, entries]

/-- So the entry of the first record is missing. -/
theorem content?_ne_of_long {path : String} (hhead : path.toList.head? ≠ some '-')
    (hnull : '\x00' ∉ path.toList) (hlong : Log.maxBytes ≤ path.length) :
    ((run (.ofEnvironment []) (sampleArgv path)).run
        (.fresh (.usual []) "now")).2.files.content? sampleLog ≠
      some (entries "now" (recordsOf sampleOpened [] (sampleArguments path).items)) := by
  have hread := readText_of_long sampleOpened hnull
    (Nat.le_trans (by simp [FileSystem.pathBytesBound, Log.maxBytes]) hlong)
  rw [content?_of_long hhead hnull hlong, recordsOf_sampleArguments _ hread]
  intro heq
  have hshorter := congrArg List.length (Option.some.inj heq)
  have hfirst : 0 < (entries "now" [compiledRecord uriExpression]).length := by decide +kernel
  simp only [entries, List.flatMap_cons, List.flatMap_nil, List.length_append, List.length_nil]
    at hshorter hfirst
  omega

/-- A schema fails and yet the log does not have the records of both items: the path of the one has
a null character, which ends the run, and the record on the path of the other fills the log file. -/
theorem content?_ne_entries :
    let start : World := .fresh (.usual []) "now"
    let incomplete (path : String) : Prop :=
      parse (.ofEnvironment []) (sampleArgv path) = .ok (sampleArguments path) ∧
        openLog? start.files (.string "/log") = some (some sampleLog, sampleOpened) ∧
        ((run (.ofEnvironment []) (sampleArgv path)).run start).2.files.content? sampleLog ≠
          some (entries start.stamp (recordsOf sampleOpened [] (sampleArguments path).items))
    incomplete "a\x00b" ∧ incomplete (String.ofList (List.replicate Log.maxBytes 'x')) := by
  have hlong : Log.maxBytes ≤ (String.ofList (List.replicate Log.maxBytes 'x')).length := by
    rw [String.length_ofList, List.length_replicate]
  have hnull : '\x00' ∉ (String.ofList (List.replicate Log.maxBytes 'x')).toList := by
    rw [String.toList_ofList]
    exact fun h => absurd (List.eq_of_mem_replicate h) (by decide)
  have hhead : (String.ofList (List.replicate Log.maxBytes 'x')).toList.head? ≠ some '-' := by
    rw [String.toList_ofList]
    decide +kernel
  exact ⟨⟨rfl, rfl, by decide +kernel⟩, parse_sampleArgv hhead, rfl,
    content?_ne_of_long hhead hnull hlong⟩

end CommandLine

end CredentialCheck
