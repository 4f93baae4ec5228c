import CredentialCheck.Proofs.CommandLine.Opening
import CredentialCheck.Proofs.CommandLine.Values

/-!
# How a run ends

A run ends with one of its statuses: 2 if the command line is refused, 0 if help is asked for or all
items are valid, and 1 if a line has been printed that calls an item invalid. This holds for
documents of any sort, whether they can be read or not, and even if a document is the log file,
which grows meanwhile and may be moved. There is one exception: a log file that cannot be opened
ends the run with an error of the system, and no item is looked at.

* `Item.Shows` says which lines are reports on an item.
* `run_reports`: each item is reported on, and the status says whether one is invalid.
* `run_ends` is the statement about whole runs.
-/

namespace CredentialCheck.CommandLine

open Document

/-! ## Reports -/

/-- The report is one on the item: an identifier is called by its form if that is asked for, and
else invalid; a document is called valid or, with a reason, invalid. -/
inductive Item.Shows (asked : Value) : Item → Report → Prop
  | form (s : String) (h : Identifier.accepts (.string s) asked = true) :
    Shows asked (.identifier s) ⟨true, s ++ ": " ++ (Identifier.classify (.string s)).name⟩
  | noForm (s : String) (h : Identifier.accepts (.string s) asked = false) :
    Shows asked (.identifier s) ⟨false, s ++ ": invalid"⟩
  | valid (model : Model) (path : String) :
    Shows asked (.document model (.string path)) ⟨true, path ++ ": valid " ++ model.name⟩
  | invalid (model : Model) (path : String) (reason : Reason) :
    Shows asked (.document model (.string path)) ⟨false, invalidLine path reason⟩

/-- There is one report on an identifier. -/
theorem shows_identifier_iff (asked : Value) (s : String) (report : Report) :
    (Item.identifier s).Shows asked report ↔
      report = ⟨Identifier.accepts (.string s) asked, identifierLine asked s⟩ := by
  have hline : s ++ ": " ++ "invalid" = s ++ ": invalid" := String.append_assoc ..
  unfold identifierLine
  constructor
  · intro h
    cases h with
    | form _ haccepts => rw [haccepts, if_pos rfl]
    | noForm _ haccepts => rw [haccepts, if_neg Bool.false_ne_true, hline]
  · rintro rfl
    cases haccepts : Identifier.accepts (.string s) asked with
    | true => exact .form s haccepts
    | false =>
      rw [if_neg Bool.false_ne_true, hline]
      exact .noForm s haccepts

/-- Whatever stands at the path of a document, its report is one on it. -/
theorem shows_report {item : Item} (h : item.NullFree) (fs : FileSystem) (asked : Value) :
    item.Shows asked (item.report fs asked) := by
  cases item with
  | identifier s =>
    rw [shows_identifier_iff, Item.report, Item.isFaulty, Bool.not_not]
    rfl
  | document model path =>
    obtain ⟨s, rfl, -⟩ := h
    change (Item.document model (.string s)).Shows asked
      ⟨!(fileReason? fs model s).isSome, documentLine fs model s⟩
    cases hreason : fileReason? fs model s with
    | none =>
      rw [documentLine, hreason]
      exact .valid model s
    | some reason =>
      rw [documentLine_of_reason hreason]
      exact .invalid model s reason

/-! ## The whole run -/

section

variable {env : List (String × String)} {argv : List String} {a : Arguments} {files : FileSystem}

/-- The paths are those of documents only. -/
theorem nullFree_of_paths {settings : Settings} (hparse : parse settings argv = .ok a)
    (h : ∀ path, .string path ∈ a.schemas ++ a.credentialDefinitions → '\x00' ∉ path.toList) :
    ∀ item ∈ a.items, item.NullFree := by
  obtain ⟨-, ⟨schemas, hschemas⟩, ⟨definitions, hdefinitions⟩, -⟩ := parse_chosen hparse
  rw [hschemas, hdefinitions] at h
  rw [items_eq hschemas hdefinitions]
  simp only [List.mem_append, List.mem_map]
  rintro item ((⟨s, -, rfl⟩ | ⟨path, hpath, rfl⟩) | ⟨path, hpath, rfl⟩)
  · trivial
  · exact ⟨path, rfl, h path (List.mem_append_left _ (List.mem_map_of_mem hpath))⟩
  · exact ⟨path, rfl, h path (List.mem_append_right _ (List.mem_map_of_mem hpath))⟩

/-- The paths that are checked have no null character, if the arguments have none. -/
theorem nullFree_of_mem_items {settings : Settings} (hargv : ∀ s ∈ argv, '\x00' ∉ s.toList)
    (hparse : parse settings argv = .ok a) : ∀ item ∈ a.items, item.NullFree := by
  obtain ⟨hschemas, hdefinitions, -⟩ := parse_cutFrom hparse
  have hpath {v : Value} (h : ∃ path, v = .string path ∧ EndsOne argv path) :
      ∃ s : String, v = .string s ∧ '\x00' ∉ s.toList := by
    obtain ⟨path, rfl, argument, hargument, hsuffix⟩ := h
    exact ⟨path, rfl, fun hnull => hargv argument hargument (hsuffix.subset hnull)⟩
  intro item hitem
  rw [Arguments.items, List.mem_append, List.mem_append] at hitem
  rcases hitem with (hitem | hitem) | hitem
  · obtain ⟨s, -, rfl⟩ := List.mem_map.1 hitem
    trivial
  · obtain ⟨v, hv, rfl⟩ := List.mem_map.1 hitem
    exact hpath (hschemas v hv)
  · obtain ⟨v, hv, rfl⟩ := List.mem_map.1 hitem
    exact hpath (hdefinitions v hv)

/-- The log file cannot be opened. -/
def Unopened (files : FileSystem) (a : Arguments) (fault : FileSystem.Fault) : Prop :=
  ∃ path, Log.Root.logPath? a.logFile = .ok (some path) ∧ files.openForAppend path = .error fault

/-- The log is opened, or the system has a fault to report. -/
theorem opened_or_unopened {settings : Settings} (hparse : parse settings argv = .ok a)
    (files : FileSystem) :
    (∃ place? opened, openLog? files a.logFile = some (place?, opened)) ∨
      ∃ fault, Unopened files a fault := by
  have hpath : ∃ path?, Log.Root.logPath? a.logFile = .ok path? := by
    rcases (parse_cutFrom hparse).logFile with h | ⟨path, h, -⟩
    · rw [h, Arguments.initial]
      dsimp only
      split <;> exact ⟨_, rfl⟩
    · rw [h]
      exact ⟨_, rfl⟩
  obtain ⟨path?, hpath⟩ := hpath
  unfold openLog? Unopened
  rw [hpath]
  cases path? with
  | none => exact .inl ⟨none, files, rfl⟩
  | some path =>
    cases hopen : files.openForAppend path with
    | error fault => exact .inr ⟨fault, path, rfl, hopen⟩
    | ok opened => exact .inl ⟨some opened.1, opened.2, by simp only [hopen]⟩

theorem openLog?_of_unopened {fault : FileSystem.Fault} (h : Unopened files a fault) :
    openLog? files a.logFile = none := by
  obtain ⟨path, hpath, hopen⟩ := h
  simp only [openLog?, hpath, hopen]

/-- **A log file that cannot be opened ends the run with the fault**, before anything is checked. -/
theorem run_of_unopened (hparse : parse (.ofEnvironment env) argv = .ok a)
    {fault : FileSystem.Fault} (h : Unopened files a fault) (stamp : String) :
    ∃ w, (run (.ofEnvironment env) argv).run (.fresh files stamp) =
      (.escaped (.setup (.file fault)), w) := by
  obtain ⟨path, hpath, hopen⟩ := h
  have hsetup : (Log.Root.fresh.setup files .none a.logLevel a.logFile).1 =
      .error (.file fault) := by
    have hinstall : (Log.Root.fresh.shutdown .none).1.installAll files a.logFile =
        (.error (.file fault), Log.Root.fresh.install .stream, files) := by
      unfold Log.Root.installAll
      simp only [hpath, hopen]
      rfl
    simp only [Log.Root.setup, hinstall]
  rw [run_of_accepted hparse, execute, StateT.run_bind, run_setupLog, World.fresh]
  dsimp only
  rw [hsetup]
  exact ⟨_, rfl⟩

/-- **All items are reported on** once the log has been opened, and the status says whether one is
invalid. -/
theorem run_reports (hparse : parse (.ofEnvironment env) argv = .ok a)
    (hnull : ∀ item ∈ a.items, item.NullFree) {opened : FileSystem} {place? : Option Path}
    (hlog : openLog? files a.logFile = some (place?, opened)) (stamp : String) :
    ∃ reports w, List.Forall₂ (Item.Shows a.kind) a.items reports ∧
      (run (.ofEnvironment env) argv).run (.fresh files stamp) =
        (.status (if reports.countP (!·.valid) = 0 then 0 else 1), w) ∧
      w.console.prints .output = reports.map (·.line ++ "\n") := by
  obtain ⟨l, hl⟩ := exists_level hparse
  obtain ⟨_, _, ⟨reports, hreports, rfl, rfl⟩, hchecks⟩ :=
    gives_checkAll a.kind hnull _ (ready_opened hlog)
  obtain ⟨w, hrun, houtput, -⟩ := run_of_yieldsFrom hparse hl hlog hchecks
  refine ⟨reports, w, ?_, hrun, ?_⟩
  · refine List.forall₂_iff_get.2 ⟨hreports.length_eq, fun i hi hi' => ?_⟩
    obtain ⟨fs, -, hreport⟩ := hreports.get hi hi'
    rw [hreport]
    exact shows_report (hnull _ (List.get_mem _ _)) fs a.kind
  · rw [houtput, List.map_map]
    rfl

/-- How a run ends, and what it has printed by then. -/
inductive Ends (settings : Settings) (argv : List String) (files : FileSystem)
    (printed : List String) : Exit → Prop
  | help (hparse : parse settings argv = .error .help) :
    Ends settings argv files printed (.status 0)
  | refused (r : Refusal) (hparse : parse settings argv = .error (.refused r)) :
    Ends settings argv files printed (.status 2)
  | unopened (a : Arguments) (fault : FileSystem.Fault) (hparse : parse settings argv = .ok a)
    (hfault : Unopened files a fault) :
    Ends settings argv files printed (.escaped (.setup (.file fault)))
  | valid (a : Arguments) (reports : List Report) (hparse : parse settings argv = .ok a)
    (hlog : (openLog? files a.logFile).isSome)
    (hshows : List.Forall₂ (Item.Shows a.kind) a.items reports)
    (hvalid : ∀ report ∈ reports, report.valid = true)
    (hprinted : printed = reports.map (·.line ++ "\n")) :
    Ends settings argv files printed (.status 0)
  | invalid (a : Arguments) (item : Item) (line : String) (hparse : parse settings argv = .ok a)
    (hlog : (openLog? files a.logFile).isSome) (hitem : item ∈ a.items)
    (hshows : item.Shows a.kind ⟨false, line⟩) (hprinted : line ++ "\n" ∈ printed) :
    Ends settings argv files printed (.status 1)

section

variable {asked : Value} {items : List Item} {reports : List Report}

/-- Each item has its report. -/
theorem exists_report (hshows : List.Forall₂ (Item.Shows asked) items reports) {i : Nat}
    {item : Item} (h : items[i]? = some item) :
    ∃ report, reports[i]? = some report ∧ item.Shows asked report := by
  obtain ⟨hi, rfl⟩ := List.getElem?_eq_some_iff.1 h
  have hi' : i < reports.length := hshows.length_eq ▸ hi
  exact ⟨reports[i], List.getElem?_eq_getElem hi', hshows.get hi hi'⟩

/-- Each report is one on an item. -/
theorem exists_item (hshows : List.Forall₂ (Item.Shows asked) items reports) {report : Report}
    (h : report ∈ reports) : ∃ item ∈ items, item.Shows asked report := by
  obtain ⟨i, hi', rfl⟩ := List.mem_iff_getElem.1 h
  have hi : i < items.length := hshows.length_eq.symm ▸ hi'
  exact ⟨items[i], List.getElem_mem hi, hshows.get hi hi'⟩

end

theorem ends_of_reports {settings : Settings} {printed : List String} {reports : List Report}
    (hparse : parse settings argv = .ok a) (hlog : (openLog? files a.logFile).isSome)
    (hshows : List.Forall₂ (Item.Shows a.kind) a.items reports)
    (hprinted : printed = reports.map (·.line ++ "\n")) :
    Ends settings argv files printed
      (.status (if reports.countP (!·.valid) = 0 then 0 else 1)) := by
  split
  · next hcount =>
    refine .valid a reports hparse hlog hshows (fun report hreport => ?_) hprinted
    simpa using List.countP_eq_zero.1 hcount report hreport
  · next hcount =>
    obtain ⟨⟨valid, line⟩, hreport, hinvalid⟩ :=
      List.countP_pos_iff.1 (Nat.pos_of_ne_zero hcount)
    obtain rfl : valid = false := by simpa using hinvalid
    obtain ⟨item, hitem, hshown⟩ := exists_item hshows hreport
    refine .invalid a item line hparse hlog hitem hshown ?_
    rw [hprinted]
    exact List.mem_map.2 ⟨_, hreport, rfl⟩

theorem exists_ends (env : List (String × String)) (hargv : ∀ s ∈ argv, '\x00' ∉ s.toList)
    (files : FileSystem) (stamp : String) :
    ∃ exit w, (run (.ofEnvironment env) argv).run (.fresh files stamp) = (exit, w) ∧
      Ends (.ofEnvironment env) argv files (w.console.prints .output) exit := by
  cases hparse : parse (.ofEnvironment env) argv with
  | error stop =>
    unfold run
    rw [hparse]
    cases stop with
    | help => exact ⟨_, _, rfl, .help hparse⟩
    | refused r => exact ⟨_, _, rfl, .refused r hparse⟩
  | ok a =>
    rcases opened_or_unopened hparse files with ⟨place?, opened, hlog⟩ | ⟨fault, hfault⟩
    · obtain ⟨reports, w, hshows, hrun, hprinted⟩ :=
        run_reports hparse (nullFree_of_mem_items hargv hparse) hlog stamp
      exact ⟨_, w, hrun, ends_of_reports hparse (by rw [hlog]; rfl) hshows hprinted⟩
    · obtain ⟨w, hrun⟩ := run_of_unopened hparse hfault stamp
      exact ⟨_, w, hrun, .unopened a fault hparse hfault⟩

section

variable {settings : Settings} {printed : List String} {exit : Exit}

theorem Ends.exit_cases (h : Ends settings argv files printed exit) :
    exit = .status 0 ∨ exit = .status 1 ∨ exit = .status 2 ∨
      ∃ fault, exit = .escaped (.setup (.file fault)) := by
  cases h with
  | help | valid => exact .inl rfl
  | invalid => exact .inr (.inl rfl)
  | refused => exact .inr (.inr (.inl rfl))
  | unopened a fault => exact .inr (.inr (.inr ⟨fault, rfl⟩))

/-- The fault of the log file gets out if there is one. -/
theorem Ends.escaped_iff (h : Ends settings argv files printed exit) (fault : FileSystem.Fault) :
    exit = .escaped (.setup (.file fault)) ↔
      ∃ a, parse settings argv = .ok a ∧ Unopened files a fault := by
  constructor
  · rintro rfl
    cases h with
    | unopened a _ hparse hfault => exact ⟨a, hparse, hfault⟩
  · rintro ⟨a, hparse, hfault⟩
    cases h with
    | help hparse' => cases hparse.symm.trans hparse'
    | refused r hparse' => cases hparse.symm.trans hparse'
    | unopened a' fault' hparse' hfault' =>
      cases hparse.symm.trans hparse'
      obtain ⟨path, hpath, hopen⟩ := hfault
      obtain ⟨path', hpath', hopen'⟩ := hfault'
      cases hpath.symm.trans hpath'
      cases hopen.symm.trans hopen'
      rfl
    | valid a' reports hparse' hlog =>
      cases hparse.symm.trans hparse'
      rw [openLog?_of_unopened hfault] at hlog
      cases hlog
    | invalid a' item line hparse' hlog =>
      cases hparse.symm.trans hparse'
      rw [openLog?_of_unopened hfault] at hlog
      cases hlog

theorem Ends.refused_iff (h : Ends settings argv files printed exit) :
    exit = .status 2 ↔ ∃ r, parse settings argv = .error (.refused r) := by
  constructor
  · rintro rfl
    cases h with
    | refused r hparse => exact ⟨r, hparse⟩
  · rintro ⟨r, hparse⟩
    cases h with
    | refused => rfl
    | help hparse' => cases hparse.symm.trans hparse'
    | unopened a fault hparse' => cases hparse.symm.trans hparse'
    | valid a reports hparse' => cases hparse.symm.trans hparse'
    | invalid a item line hparse' => cases hparse.symm.trans hparse'

theorem Ends.of_zero (h : Ends settings argv files printed (.status 0)) :
    parse settings argv = .error .help ∨ ∃ a reports, parse settings argv = .ok a ∧
      List.Forall₂ (Item.Shows a.kind) a.items reports ∧ (∀ report ∈ reports, report.valid = true) ∧
      printed = reports.map (·.line ++ "\n") := by
  cases h with
  | help hparse => exact .inl hparse
  | valid a reports hparse _ hshows hvalid hprinted =>
    exact .inr ⟨a, reports, hparse, hshows, hvalid, hprinted⟩

theorem Ends.of_one (h : Ends settings argv files printed (.status 1)) :
    ∃ a, parse settings argv = .ok a ∧ ∃ item ∈ a.items, ∃ line, item.Shows a.kind ⟨false, line⟩ ∧
      line ++ "\n" ∈ printed := by
  cases h with
  | invalid a item line hparse _ hitem hshows hprinted =>
    exact ⟨a, hparse, item, hitem, line, hshows, hprinted⟩

end

end

/-- **A run gives up through its statuses, or on its log file.** If no argument has a null
character, a run in a new process ends with one of the statuses 0, 1 and 2, whatever the files are,
or with the fault of the system that keeps its log file from being opened, just if there is one. The
status 2 stands for a command line that is refused, 0 for help or for items all of which are
reported as valid, and 1 comes only behind a line that calls an item invalid. -/
theorem run_ends (env : List (String × String)) {argv : List String}
    (hargv : ∀ s ∈ argv, '\x00' ∉ s.toList) (files : FileSystem) (stamp : String) :
    let settings := Settings.ofEnvironment env
    ∃ exit w, (run settings argv).run (.fresh files stamp) = (exit, w) ∧
      (exit = .status 0 ∨ exit = .status 1 ∨ exit = .status 2 ∨
        ∃ fault, exit = .escaped (.setup (.file fault))) ∧
      (∀ fault, exit = .escaped (.setup (.file fault)) ↔
        ∃ a, parse settings argv = .ok a ∧ Unopened files a fault) ∧
      (exit = .status 2 ↔ ∃ r, parse settings argv = .error (.refused r)) ∧
      (exit = .status 0 → parse settings argv = .error .help ∨
        ∃ a reports, parse settings argv = .ok a ∧
          List.Forall₂ (Item.Shows a.kind) a.items reports ∧
          (∀ report ∈ reports, report.valid = true) ∧
          w.console.prints .output = reports.map (·.line ++ "\n")) ∧
      (exit = .status 1 → ∃ a, parse settings argv = .ok a ∧
        ∃ item ∈ a.items, ∃ line, item.Shows a.kind ⟨false, line⟩ ∧
          line ++ "\n" ∈ w.console.prints .output) := by
  obtain ⟨exit, w, hrun, hends⟩ := exists_ends env hargv files stamp
  refine ⟨exit, w, hrun, hends.exit_cases, hends.escaped_iff, hends.refused_iff, ?_, ?_⟩
  · rintro rfl
    exact hends.of_zero
  · rintro rfl
    exact hends.of_one

/-- A directory cannot be a log file. -/
theorem run_ends_logDirectory : ∃ w,
    (run (.ofEnvironment []) ["--log-file", "/tmp", "did:x:y"]).run (.fresh (.usual []) "") =
      (.escaped (.setup (.file (.errno .isDirectory (.text "/tmp")))), w) := by
  have hargv : ∀ s ∈ ["--log-file", "/tmp", "did:x:y"], '\x00' ∉ s.toList := by decide
  have hparse : parse (.ofEnvironment []) ["--log-file", "/tmp", "did:x:y"] =
      .ok ⟨["did:x:y"], .string "any", [], [], .string "WARNING", .string "/tmp"⟩ := rfl
  obtain ⟨exit, w, hrun, -, hescaped, -⟩ := run_ends [] hargv (.usual []) ""
  have hfault := (hescaped (.errno .isDirectory (.text "/tmp"))).2
    ⟨_, hparse, .text "/tmp", rfl, rfl⟩
  rw [hfault] at hrun
  exact ⟨w, hrun⟩

/-- Neither can a file in a directory that is missing, and a run that is asked for one ends with
none of its statuses, though all it has to check is a valid identifier. -/
theorem run_missingDirectory :
    (∀ s ∈ ["--log-file", "nodir/x.log", "did:x:y"], '\x00' ∉ s.toList) ∧
      ∀ n w, (run (.ofEnvironment []) ["--log-file", "nodir/x.log", "did:x:y"]).run
        (.fresh (.usual []) "") ≠ (.status n, w) := by
  refine ⟨by decide, fun n w h => ?_⟩
  have hescaped : ((run (.ofEnvironment []) ["--log-file", "nodir/x.log", "did:x:y"]).run
      (.fresh (.usual []) "")).1 =
        .escaped (.setup (.file (.errno .notFound (.text "/nodir/x.log")))) := rfl
  rw [h] at hescaped
  cases hescaped

end CredentialCheck.CommandLine
