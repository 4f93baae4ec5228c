import CredentialCheck.Proofs.CommandLine.Journal

/-!
# The report of a run

What a run prints, item by item, as a function of the item, the kind asked for, and the tree of
files behind opening the log. No item is left out, no line depends on another item, and the status
tells whether an item is faulty. Only the log can get in the way of this: a document that is the log
file changes while items are checked, and a log file that gets full is moved to where a document may
be.

* `Arguments.DocumentsApart` says that the documents are apart from the log.
* `run_lines` are the lines of a run and its status, item by item.
* `run_report` is the statement about whole runs, `line_depends_on_identifier` is a run in which the
  log gets in the way.
-/

namespace CredentialCheck.CommandLine

open Document Text
open Pattern (uriExpression)

/-! ## Documents apart from the log -/

/-- The documents of a command line are apart from the log: none is the log file, and either the log
file stays below the limit, or none is reached over one of its backups. -/
structure Arguments.DocumentsApart (a : Arguments) (opened : FileSystem) (place? : Option Path)
    (stamp : String) : Prop where
  log : ∀ path, .string path ∈ a.schemas ++ a.credentialDefinitions →
    ∀ place, place? = some place → ¬ opened.LeadsTo (.text path) place
  backups : a.StaysBelow opened place? stamp ∨
    ∀ path, .string path ∈ a.schemas ++ a.credentialDefinitions →
      ∀ place, place? = some place → ∀ other ∈ opened.placesOn (.text path), ¬ place.InBackup other

/-- Without a log file all documents are apart from it. -/
theorem Arguments.documentsApart_none (a : Arguments) (opened : FileSystem) (stamp : String) :
    a.DocumentsApart opened none stamp :=
  ⟨fun _ _ _ h => absurd h.symm (Option.some_ne_none _),
    .inr fun _ _ _ h => absurd h.symm (Option.some_ne_none _)⟩

section

variable {env : List (String × String)} {argv : List String} {a : Arguments}
  {files opened : FileSystem} {place? : Option Path} {l : Log.Level} {stamp : String}

/-- When all that the log changes is avoided by the documents, the items come to their lines. -/
theorem yieldsFrom_checkAll_of_avoids {w : World} {written moved : Path → Prop} {asked : Value}
    {items : List Item} (hnull : ∀ item ∈ items, item.NullFree)
    (hready : w.Ready (opened.SameBut written moved))
    (havoids : ∀ item ∈ items, item.PathIs fun path => opened.Avoids written moved (.text path)) :
    YieldsFrom (opened.SameBut written moved) w (checkAll asked items)
      (.ok (items.countP (·.isFaulty opened asked))) (items.map (·.line opened asked)) := by
  obtain ⟨_, _, ⟨reports, hreports, rfl, rfl⟩, hyields⟩ := gives_checkAll asked hnull w hready
  have hsame (fs : FileSystem) (hfs : opened.SameBut written moved fs) (item : Item)
      (hitem : item ∈ items) : item.report fs asked = item.report opened asked :=
    Item.report_congr (hnull item hitem)
      ((havoids item hitem).mono fun _ hpath => hfs.readText hpath) asked
  rw [hreports.eq_map hsame, List.map_map, List.countP_map] at hyields
  have hcount : items.countP ((!·.valid) ∘ (·.report opened asked)) =
      items.countP (·.isFaulty opened asked) := by
    refine List.countP_congr fun item _ => ?_
    simp [Item.report]
  rw [hcount] at hyields
  exact hyields

/-- Items apart from the log come to their lines. -/
theorem exists_yieldsFrom_checkAll (hlog : openLog? files a.logFile = some (place?, opened))
    (hlevel : Log.Level.ofValue a.logLevel = .ok l) (hnull : ∀ item ∈ a.items, item.NullFree)
    (hapart : a.DocumentsApart opened place? stamp) :
    ∃ holds, YieldsFrom holds
      ((World.fresh files stamp).opened l (Log.logSink? files a.logFile) opened)
      (checkAll a.kind a.items) (.ok (a.items.countP (·.isFaulty opened a.kind)))
      (a.items.map (·.line opened a.kind)) := by
  have hspared : ∀ item ∈ a.items, item.PathIs fun path =>
      ∀ place, place? = some place → ¬ opened.LeadsTo (.text path) place :=
    pathIs_of_mem_items hapart.log
  rcases hapart.backups with hbelow | hclear
  · -- the log file does not get full, so it may as well just grow
    have hgrowing := (reachesOnly_openedRoot Log.Root.fresh l (place?_logSink? hlog)).growing
    refine ⟨_, YieldsFrom.of_fits (fits_of_staysBelow hlog hlevel hspared hbelow)
      (yieldsFrom_checkAll_of_avoids hnull
        (ready_reachesOnly Pattern.Shared.sound_fresh rfl hgrowing rfl) fun item hitem => ?_)⟩
    exact (hspared item hitem).mono fun path hpath =>
      ⟨fun place hplace => hpath place (writtenBy_nil.1 hplace), fun _ _ => id⟩
  · refine ⟨_, yieldsFrom_checkAll_of_avoids hnull (ready_opened hlog) ?_⟩
    refine pathIs_of_mem_items fun path hpath => ⟨fun place hplace => ?_, ?_⟩
    · exact hapart.log path hpath place (writtenBy_nil.1 hplace)
    · intro other hother hmoved
      obtain ⟨place, hplace, hbackup⟩ := movedBy_nil.1 hmoved
      exact hclear path hpath place hplace other hother hbackup

/-! ## Whole runs -/

/-- The lines of a run, item by item, and how it ends. -/
theorem run_lines (hparse : parse (.ofEnvironment env) argv = .ok a)
    (hlog : openLog? files a.logFile = some (place?, opened))
    (hnull : ∀ item ∈ a.items, item.NullFree) (hapart : a.DocumentsApart opened place? stamp) :
    let failed := a.items.countP (·.isFaulty opened a.kind)
    ∃ w, (run (.ofEnvironment env) argv).run (.fresh files stamp) =
        (.status (if failed = 0 then 0 else 1), w) ∧
      w.console.prints .output = (a.items.map (·.line opened a.kind)).map (· ++ "\n") ∧
      w.console.prints .error =
        if failed = 0 then [] else [toString failed ++ " item(s) failed validation\n"] := by
  obtain ⟨l, hl⟩ := exists_level hparse
  obtain ⟨holds, hyields⟩ := exists_yieldsFrom_checkAll hlog hl hnull hapart
  exact run_of_yieldsFrom hparse hl hlog hyields

/-- The first item finds the files as they are when the log has been opened. -/
theorem run_first (hparse : parse (.ofEnvironment env) argv = .ok a)
    (hlog : openLog? files a.logFile = some (place?, opened))
    (hnull : ∀ item ∈ a.items, item.NullFree) {item : Item} {items : List Item}
    (hitems : a.items = item :: items) (stamp : String) :
    ∃ reports w, reports.length = items.length ∧
      (run (.ofEnvironment env) argv).run (.fresh files stamp) =
        (.status (if (item.report opened a.kind :: reports).countP (!·.valid) = 0 then 0 else 1),
          w) ∧
      w.console.prints .output = (item.report opened a.kind :: reports).map (·.line ++ "\n") := by
  obtain ⟨l, hl⟩ := exists_level hparse
  rw [hitems, List.forall_mem_cons] at hnull
  obtain ⟨reports, hreports, hyields⟩ :=
    yieldsFrom_checkAll_cons (ready_opened hlog) hnull.1 (gives_checkAll a.kind hnull.2)
  rw [← hitems] at hyields
  obtain ⟨w, hrun, houtput, -⟩ := run_of_yieldsFrom hparse hl hlog hyields
  refine ⟨reports, w, hreports.length_eq.symm, hrun, ?_⟩
  rw [houtput, List.map_map]
  rfl

end

end CredentialCheck.CommandLine
