import CredentialCheck.Proofs.CommandLine.SideBySide

/-!
# Opening the log

Whether the log of a run can be set up depends on its options and on the files, and not on what
stands on the root of the log. The root keeps the handlers of the host, and this library's come
behind them.

* `openLog?` says where the log file is and what the files are like when it has been opened.
* `openedRoot` is the root when the log has been set up, `World.opened` the world.
* `setup_of_openLog?` and `exists_openLog?_of_setup` are the two directions.
* `reachesOnly_openedRoot`: behind the set-up the log writes to the log file and the host's files
  only, and moves their backups only.
* `run_of_yieldsFrom`: what the checks come to behind the set-up decides how a run ends.
-/

namespace CredentialCheck.CommandLine

open Log (Root Level Handler Sink WhenFull handlersFor logSink?)

/-! ## The log file -/

/-- The place of the log file and the tree in which it can be written to, if the log can be opened;
without a log file, no place. -/
def openLog? (files : FileSystem) (logFile : Value) : Option (Option Path × FileSystem) :=
  match Root.logPath? logFile with
  | .error _ => none
  | .ok none => some (none, files)
  | .ok (some path) =>
    match files.openForAppend path with
    | .error _ => none
    | .ok (place, opened) => some (some place, opened)

/-- The root with a level and this library's handlers, when the log has been set up. -/
def openedRoot (r : Root) (level : Level) (sink? : Option Sink) : Root :=
  let own := handlersFor r.next sink?
  ⟨(r.shutdown .none).1.handlers ++ own, own, level, r.next + own.length⟩

/-- The world when the log has been set up. -/
def World.opened (w : World) (level : Level) (sink? : Option Sink) (files : FileSystem) : World :=
  { w with log := openedRoot w.log level sink?, files }

section

variable {files opened : FileSystem} {place? : Option Path} {level logFile : Value} {l : Level}

/-- The log file has a handler at its place. -/
theorem logSink?_of_openLog? (hlog : openLog? files logFile = some (place?, opened)) :
    ∃ whenFull, logSink? files logFile = place?.map fun place => .file place whenFull := by
  unfold openLog? at hlog
  unfold logSink?
  cases hpath : Root.logPath? logFile with
  | error f => simp [hpath] at hlog
  | ok path? =>
    cases path? with
    | none =>
      simp only [hpath, Option.some.injEq, Prod.mk.injEq] at hlog
      obtain ⟨rfl, rfl⟩ := hlog
      exact ⟨.rollsOver, rfl⟩
    | some path =>
      cases hopen : files.openForAppend path with
      | error f => simp [hpath, hopen] at hlog
      | ok found =>
        simp only [hpath, hopen, Option.some.injEq, Prod.mk.injEq] at hlog
        obtain ⟨rfl, rfl⟩ := hlog
        exact ⟨.ofLogFile (path.absolute files.directory), by simp only [hopen]; rfl⟩

theorem place?_logSink? (hlog : openLog? files logFile = some (place?, opened)) :
    (logSink? files logFile).bind Sink.place? = place? := by
  obtain ⟨whenFull, hsink⟩ := logSink?_of_openLog? hlog
  rw [hsink]
  cases place? <;> rfl

theorem setup_of_openLog? (r : Root) (hlog : openLog? files logFile = some (place?, opened))
    (hlevel : Level.ofValue level = .ok l) :
    r.setup files .none level logFile =
      (.ok (), openedRoot r l (logSink? files logFile), opened) := by
  have hquiet := Log.shutdown_fst .none r
  unfold openLog? at hlog
  cases hpath : Root.logPath? logFile with
  | error f => simp [hpath] at hlog
  | ok path? =>
    cases path? with
    | none =>
      simp only [hpath, Option.some.injEq, Prod.mk.injEq] at hlog
      obtain ⟨rfl, rfl⟩ := hlog
      simp [Root.setup, Root.installAll, Root.install, hpath, hlevel, openedRoot, handlersFor,
        logSink?, hquiet]
    | some path =>
      cases hopen : files.openForAppend path with
      | error f => simp [hpath, hopen] at hlog
      | ok found =>
        simp only [hpath, hopen, Option.some.injEq, Prod.mk.injEq] at hlog
        obtain ⟨rfl, rfl⟩ := hlog
        simp [Root.setup, Root.installAll, Root.install, hpath, hopen, hlevel, openedRoot,
          handlersFor, logSink?, hquiet, Except.toOption]

theorem run_setupLog (level file : Value) (w : World) :
    (setupLog level file).run w = ((w.log.setup w.files .none level file).1.mapError .setup,
      { w with
        log := (w.log.setup w.files .none level file).2.1
        files := (w.log.setup w.files .none level file).2.2 }) := rfl

theorem run_setupLog_of_openLog? (w : World)
    (hlog : openLog? w.files logFile = some (place?, opened))
    (hlevel : Level.ofValue level = .ok l) :
    (setupLog level logFile).run w = (.ok (), w.opened l (logSink? w.files logFile) opened) := by
  rw [run_setupLog, setup_of_openLog? w.log hlog hlevel]
  rfl

/-- A log file that is there already is opened as it is. -/
theorem openLog?_of_file {path : Spelling} {place : Path} {content : List UInt8}
    (hpath : Root.logPath? logFile = .ok (some path))
    (hfile : files.resolve (path.absolute files.directory) = .ok (.node place (.file content))) :
    openLog? files logFile = some (some place, files) := by
  unfold openLog? FileSystem.openForAppend
  simp only [hpath, hfile]

/-! ## What the log reaches -/

/-- The place of the log file, if there is one, or of a file that a handler of the host writes
to. -/
def WrittenBy (handlers : List Handler) (place? : Option Path) (place : Path) : Prop :=
  place? = some place ∨ ∃ h ∈ handlers, h.sink.place? = some place

/-- The place is among the backups of the log file, if there is one, or of a file that a handler of
the host rolls over. -/
def MovedBy (handlers : List Handler) (place? : Option Path) (other : Path) : Prop :=
  ∃ place, (place? = some place ∨ ∃ h ∈ handlers, h.sink = .file place .rollsOver) ∧
    place.InBackup other

theorem writtenBy_nil {place : Path} : WrittenBy [] place? place ↔ place? = some place :=
  or_iff_left fun ⟨_, hmem, _⟩ => absurd hmem List.not_mem_nil

theorem movedBy_nil {other : Path} :
    MovedBy [] place? other ↔ ∃ place, place? = some place ∧ place.InBackup other := by
  simp [MovedBy]

/-- Behind the set-up a handler is the host's, or it has the stream or the log file. -/
theorem mem_openedRoot {r : Root} {sink? : Option Sink} {h : Handler}
    (hmem : h ∈ (openedRoot r l sink?).handlers) :
    h ∈ r.handlers ∨ h.sink = .stream ∨ sink? = some h.sink := by
  rw [openedRoot, List.mem_append, Log.shutdown_fst] at hmem
  rcases hmem with hmem | hmem
  · exact .inl (List.diff_subset _ _ hmem)
  · rcases List.mem_cons.1 hmem with rfl | hmem
    · exact .inr (.inl rfl)
    · obtain ⟨sink, hsome, rfl⟩ := Option.map_eq_some_iff.1 (Option.mem_toList.1 hmem)
      exact .inr (.inr hsome)

/-- **The log that has been set up reaches the log file and the host's files**, and their
backups. -/
theorem reachesOnly_openedRoot (r : Root) (l : Level) {sink? : Option Sink}
    (hsink : sink?.bind Sink.place? = place?) :
    (openedRoot r l sink?).ReachesOnly (WrittenBy r.handlers place?)
      (MovedBy r.handlers place?) := by
  intro h hmem
  cases hfile : h.sink with
  | stream | nowhere => trivial
  | file place whenFull =>
    rcases mem_openedRoot hmem with hhost | hstream | hown
    · refine ⟨.inr ⟨h, hhost, by rw [hfile]; rfl⟩, fun hrolls other hother => ?_⟩
      exact ⟨place, .inr ⟨h, hhost, hrolls ▸ hfile⟩, hother⟩
    · cases hfile.symm.trans hstream
    · have hplace : place? = some place := by
        rw [← hsink, hown, hfile]
        rfl
      exact ⟨.inl hplace, fun _ other hother => ⟨place, .inl hplace, hother⟩⟩

end

/-! ## Whole runs -/

/-- When all items have been checked, the log is shut down, and the faulty items are reported. -/
theorem run_checkItems {a : Arguments} {w w' : World} {n : Nat}
    (hcheck : (checkAll a.kind a.items).run w = (.ok n, w')) (hconsole : w'.printsLeft = none) :
    ∃ v, (checkItems a).run w = (.status (if n = 0 then 0 else 1), v) ∧
      v.console.prints .output = w'.console.prints .output ∧
      v.console.prints .error = w'.console.prints .error ++
        if n = 0 then [] else [toString n ++ " item(s) failed validation\n"] := by
  let quiet : World := { w' with log := (w'.log.shutdown .none).1 }
  unfold checkItems finish
  rw [StateT.run_bind, hcheck]
  cases n with
  | zero => exact ⟨quiet, rfl, rfl, (List.append_nil _).symm⟩
  | succ n =>
    let complaint := toString (n + 1) ++ " item(s) failed validation"
    refine ⟨{ quiet with console := quiet.console.line .error complaint }, ?_, ?_, ?_⟩
    · change (shutdownLog >>= _).run w' = _
      rw [StateT.run_bind, show shutdownLog.run w' = ((), quiet) from rfl]
      change (printLine .error complaint >>= _).run quiet = _
      rw [StateT.run_bind, run_printLine (w := quiet) hconsole]
      rfl
    · simp [Console.line, Console.prints_add, quiet]
    · simp only [Console.line, Console.prints_add, quiet, and_self, if_true, complaint,
        String.append_assoc]
      rfl

section

variable {env : List (String × String)} {argv : List String} {a : Arguments}
  {files opened : FileSystem} {place? : Option Path}

theorem run_of_refused {settings : Settings} {r : Refusal}
    (h : parse settings argv = .error (.refused r)) :
    ∃ text, ∀ w : World, (run settings argv).run w =
      (.status 2, { w with console := w.console.write .error text }) := by
  refine ⟨usage ++ programName ++ ": error: " ++ r.message ++ "\n", fun w => ?_⟩
  unfold run
  rw [h]
  rfl

theorem run_of_accepted {settings : Settings} (h : parse settings argv = .ok a) :
    run settings argv = execute a := by
  unfold run
  rw [h]

/-- The level that an accepted command line asks for is one. -/
theorem exists_level {settings : Settings} (hparse : parse settings argv = .ok a) :
    ∃ l, Level.ofValue a.logLevel = .ok l := by
  obtain ⟨-, -, -, name, hname, hlevel⟩ := parse_chosen hparse
  rw [hlevel]
  exact exists_ofValue_of_levelNames hname

/-- An accepted command line whose log can be opened is a matter of its checks. -/
theorem run_of_openLog? {settings : Settings} (hparse : parse settings argv = .ok a)
    {l : Level} (hlevel : Level.ofValue a.logLevel = .ok l) {w : World}
    (hlog : openLog? w.files a.logFile = some (place?, opened)) :
    (run settings argv).run w =
      (checkItems a).run (w.opened l (logSink? w.files a.logFile) opened) := by
  rw [run_of_accepted hparse, run_execute_of_setupLog (run_setupLog_of_openLog? w hlog hlevel)]

/-- **What the checks come to behind the set-up decides how a run ends.** -/
theorem run_of_yieldsFrom {settings : Settings} (hparse : parse settings argv = .ok a) {l : Level}
    (hlevel : Level.ofValue a.logLevel = .ok l)
    (hlog : openLog? files a.logFile = some (place?, opened)) {stamp : String}
    {holds : FileSystem → Prop} {n : Nat} {lines : List String}
    (h : YieldsFrom holds ((World.fresh files stamp).opened l (logSink? files a.logFile) opened)
      (checkAll a.kind a.items) (.ok n) lines) :
    ∃ w, (run settings argv).run (.fresh files stamp) = (.status (if n = 0 then 0 else 1), w) ∧
      w.console.prints .output = lines.map (· ++ "\n") ∧
      w.console.prints .error =
        if n = 0 then [] else [toString n ++ " item(s) failed validation\n"] := by
  obtain ⟨w', hcheck, hready, houtput, herror⟩ := h
  obtain ⟨v, hrun, hvoutput, hverror⟩ := run_checkItems hcheck hready.console
  rw [run_of_openLog? (w := .fresh files stamp) hparse hlevel hlog]
  exact ⟨v, hrun, hvoutput.trans houtput, hverror.trans (congrArg (· ++ _) herror)⟩

/-- In a new process the log reaches the log file and its backups only. -/
theorem ready_opened {l : Level} {stamp : String}
    (hlog : openLog? files a.logFile = some (place?, opened)) :
    ((World.fresh files stamp).opened l (logSink? files a.logFile) opened).Ready
      (opened.SameBut (WrittenBy [] place?) (MovedBy [] place?)) := by
  exact ready_reachesOnly Pattern.Shared.sound_fresh rfl
    (reachesOnly_openedRoot Root.fresh l (place?_logSink? hlog)) rfl

end

end CredentialCheck.CommandLine
