import CredentialCheck.Proofs.CommandLine.Journal

/-!
# The options of the log

Two command lines may ask for the same checks and for different logs, by their options or by the
environment. The runs print the same, and end with the same status: what is logged, and where to,
has no effect on what is checked. The log file must be there before, must not get full, and must
not be a document.

* `apart_opened` says what the log of either run reaches.
* `run_logOptions` is the statement.
-/

namespace CredentialCheck.CommandLine

variable {env env₁ env₂ : List (String × String)} {argv argv₁ argv₂ : List String}
  {a a₁ a₂ : Arguments} {files opened : FileSystem} {place? place₁? place₂? : Option Path}

/-- In a new process, when the log has been set up, it reaches the log file only, and nothing has
been printed. -/
theorem apart_opened (hlog : openLog? files a.logFile = some (place?, files))
    {written : Path → Prop} (hwritten : ∀ place, place? = some place → written place)
    (l : Log.Level) (stamp : String) :
    ((World.fresh files stamp).opened l (Log.logSink? files a.logFile) files).growing.Apart files
      written fun _ => False := by
  have hreaches := (reachesOnly_openedRoot Log.Root.fresh l (place?_logSink? hlog)).growing
  exact ⟨Pattern.Shared.sound_fresh,
    hreaches.mono (fun place hplace => hwritten place (writtenBy_nil.1 hplace)) fun _ => id,
    .refl _ _ files⟩

/-- **The options of the log do not change the verdict.** Two command lines that are accepted, maybe
with different settings in the environment, and that come to the same but for the level of the log
and the log file, give the same output, the same lines on the error stream and the same exit. The
log files, if any, are there already and stay below the limit, and no document is one of them. -/
theorem run_logOptions (hparse₁ : parse (.ofEnvironment env₁) argv₁ = .ok a₁)
    (hparse₂ : parse (.ofEnvironment env₂) argv₂ = .ok a₂)
    (hsame : a₂ = { a₁ with logLevel := a₂.logLevel, logFile := a₂.logFile })
    (hlog₁ : openLog? files a₁.logFile = some (place₁?, files))
    (hlog₂ : openLog? files a₂.logFile = some (place₂?, files))
    (hpaths : ∀ path, .string path ∈ a₁.schemas ++ a₁.credentialDefinitions →
      ∀ place, place₁? = some place ∨ place₂? = some place → ¬ files.LeadsTo (.text path) place)
    {stamp₁ stamp₂ : String} (hbelow₁ : a₁.StaysBelow files place₁? stamp₁)
    (hbelow₂ : a₂.StaysBelow files place₂? stamp₂) :
    let first := (run (.ofEnvironment env₁) argv₁).run (.fresh files stamp₁)
    let second := (run (.ofEnvironment env₂) argv₂).run (.fresh files stamp₂)
    first.1 = second.1 ∧ first.2.console.text .output = second.2.console.text .output ∧
      ∀ stream, first.2.console.prints stream = second.2.console.prints stream := by
  obtain ⟨l₁, hl₁⟩ := exists_level hparse₁
  obtain ⟨l₂, hl₂⟩ := exists_level hparse₂
  have hkind : a₁.kind = a₂.kind := by rw [hsame]
  have hitems : a₁.items = a₂.items := by
    rw [hsame]
    rfl
  have hspared := pathIs_of_mem_items hpaths
  have hfits₁ := fits_of_staysBelow hlog₁ hl₁ (fun item hitem =>
    (hspared item hitem).mono fun _ hpath place hplace => hpath place (.inl hplace)) hbelow₁
  have hfits₂ := fits_of_staysBelow hlog₂ hl₂ (fun item hitem =>
    (hspared item (hitems ▸ hitem)).mono fun _ hpath place hplace => hpath place (.inr hplace))
    hbelow₂
  have hrun₁ := run_of_openLog? (w := .fresh files stamp₁) hparse₁ hl₁ hlog₁
  have hrun₂ := run_of_openLog? (w := .fresh files stamp₂) hparse₂ hl₂ hlog₂
  obtain ⟨hexit, houtput⟩ := checkItems_alike_of_fits hkind hitems hspared
    ⟨apart_opened hlog₁ (fun _ => .inl) l₁ stamp₁, apart_opened hlog₂ (fun _ => .inr) l₂ stamp₂,
      rfl, rfl, fun _ => rfl⟩ hfits₁ hfits₂
  dsimp only
  rw [hrun₁, hrun₂]
  exact ⟨hexit, houtput.output, houtput.prints⟩

/-- A tree with an empty file for the log. -/
def logTree : FileSystem := (FileSystem.usual []).put [.ofText "log"] (.file [])

/-- A run that logs everything to the file, and one that logs hardly anything and to no file. The
file shows the difference, and the console does not. -/
theorem run_logOptions_debug :
    let argv := ["did:x:y", "--schema", "/none"]
    let first := (run (.ofEnvironment []) (["--log-level", "DEBUG", "--log-file", "/log"] ++
      argv)).run (.fresh logTree "now")
    let second := (run (.ofEnvironment [("ANONCREDS_LOG_LEVEL", "ERROR")]) argv).run
      (.fresh logTree "later")
    (first.1 = second.1 ∧ first.2.console.text .output = second.2.console.text .output ∧
        ∀ stream, first.2.console.prints stream = second.2.console.prints stream) ∧
      first.2.files.content? [.ofText "log"] ≠ second.2.files.content? [.ofText "log"] := by
  have hparse₁ : parse (.ofEnvironment [])
      (["--log-level", "DEBUG", "--log-file", "/log"] ++ ["did:x:y", "--schema", "/none"]) =
        .ok ⟨["did:x:y"], .string "any", [.string "/none"], [], .string "DEBUG", .string "/log"⟩ :=
    rfl
  have hparse₂ : parse (.ofEnvironment [("ANONCREDS_LOG_LEVEL", "ERROR")])
      ["did:x:y", "--schema", "/none"] =
        .ok ⟨["did:x:y"], .string "any", [.string "/none"], [], .string "ERROR", .null⟩ := rfl
  have hfile : logTree.resolve ((Spelling.text "/log").absolute logTree.directory) =
      .ok (.node [.ofText "log"] (.file [])) := rfl
  have hlog : openLog? logTree (.string "/log") = some (some [.ofText "log"], logTree) :=
    openLog?_of_file rfl hfile
  have hpaths (path : String) (h : .string path ∈ [Value.string "/none"] ++ []) (place : Path)
      (hplace : some [.ofText "log"] = some place ∨ none = some place) :
      ¬ logTree.LeadsTo (.text path) place := by
    cases List.mem_singleton.1 h
    cases hplace.resolve_right (Option.some_ne_none place).symm
    rintro ⟨target, htarget, hplace⟩
    cases (show logTree.resolve (.text "/none") = .ok (.free [.ofText "none"]) from rfl).symm.trans
      htarget
    exact absurd hplace (by decide)
  have hbelow₁ : Arguments.StaysBelow ⟨["did:x:y"], .string "any", [.string "/none"], [],
      .string "DEBUG", .string "/log"⟩ logTree (some [.ofText "log"]) "now" := by
    rintro _ before l ⟨⟩ hbefore hlevel
    cases hbefore
    cases hlevel
    decide +kernel
  have hbelow₂ : Arguments.StaysBelow ⟨["did:x:y"], .string "any", [.string "/none"], [],
      .string "ERROR", .null⟩ logTree none "later" := nofun
  refine ⟨run_logOptions hparse₁ hparse₂ rfl hlog rfl hpaths hbelow₁ hbelow₂, ?_⟩
  decide +kernel

end CredentialCheck.CommandLine
