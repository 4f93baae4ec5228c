import CredentialCheck.Proofs.CommandLine.Opening
import CredentialCheck.Proofs.Log.Growing

/-!
# Runs that fill no log file

As long as no log file gets full, a run is the same as one whose log files just grow: nothing is
moved, and no line is lost. It suffices that the files that just grew are not full in the end.

* `World.growing` is the world whose log files just grow.
* `GrowsAlike` is the property of an action; `pervasive_growsAlike` says that the checks have it.
* `Fits` says that the log files are not full behind the checks, `checkItems_of_fits` is about all
  that is done once the log has been set up.
-/

namespace CredentialCheck.CommandLine

open Log (Unfilled)

/-- The world, with log files that just grow. -/
def World.growing (w : World) : World := { w with log := w.log.growing }

/-- If the log files just grow, they do grow, and if they are not full in the end, the action comes
to the same with the log as it is. -/
structure GrowsAlikeFrom (w : World) {α : Type} (x : Action α) : Prop where
  log : (x.run w.growing).2.log = w.log.growing
  files : w.files.GrowTo (x.run w.growing).2.files
  same : Unfilled w.log.handlers (x.run w.growing).2.files →
    x.run w = ((x.run w.growing).1, { (x.run w.growing).2 with log := w.log })

/-- From every world it is so. -/
def GrowsAlike {α : Type} (x : Action α) : Prop := ∀ w : World, GrowsAlikeFrom w x

section

variable {α β : Type}

/-! ## Actions -/

theorem GrowsAlike.pure (a : α) : GrowsAlike (Pure.pure a : Action α) := fun w =>
  ⟨rfl, .refl w.files, fun _ => rfl⟩

theorem GrowsAlike.bind {x : Action α} (hx : GrowsAlike x) {f : α → Action β}
    (hf : ∀ a, GrowsAlike (f a)) : GrowsAlike (x >>= f) := by
  intro w
  obtain ⟨hlog, hfiles, hsame⟩ := hx w
  -- with the log as it is, `middle` is the world between the two
  let middle : World := { (x.run w.growing).2 with log := w.log }
  have hmiddle : middle.growing = (x.run w.growing).2 := by
    rw [World.growing, ← hlog]
  obtain ⟨hlog', hfiles', hsame'⟩ := hf (x.run w.growing).1 middle
  have hrun : (x >>= f).run w.growing = (f (x.run w.growing).1).run middle.growing := by
    rw [hmiddle]
    rfl
  rw [← hrun] at hlog' hfiles' hsame'
  refine ⟨hlog', hfiles.trans hfiles', fun hsmall => ?_⟩
  have hfirst := hsame (hsmall.of_growTo hfiles')
  have hboth : (x >>= f).run w = (f (x.run w.growing).1).run middle := by
    rw [StateT.run_bind, hfirst]
    rfl
  rw [hboth, hsame' hsmall]

theorem growsAlike_record (logger : String) (level : Int) (message : String) :
    GrowsAlike (record logger level message) := fun w => {
  log := rfl
  files := Log.growTo_emit_growing w.log w.files w.stamp ⟨logger, .number level, message⟩
  same := fun hsmall => by
    have hemit : w.log.emit w.files w.stamp ⟨logger, .number level, message⟩ =
        w.log.growing.emit w.files w.stamp ⟨logger, .number level, message⟩ :=
      Log.emit_eq_growing hsmall
    change ((), { w with
      console := w.console.write .error (w.log.emit w.files w.stamp _).1
      files := (w.log.emit w.files w.stamp _).2 }) = _
    rw [hemit]
    rfl }

theorem growsAlike_forM_record (logger : String) (level : Int) (messages : List String) :
    GrowsAlike (messages.forM (record logger level)) := by
  induction messages with
  | nil => exact .pure ()
  | cons message messages ih => exact (growsAlike_record logger level message).bind fun _ => ih

theorem growsAlike_testWith
    (test : Pattern.Shared → Value → Bool × Pattern.Shared × List String) (v : Value) :
    GrowsAlike (testWith test v) := by
  intro w
  obtain ⟨hlog, hfiles, hsame⟩ := growsAlike_forM_record "anoncreds_validation.core.patterns" 10
    (test w.patterns v).2.2 { w with patterns := (test w.patterns v).2.1 }
  refine ⟨hlog, hfiles, fun hsmall => ?_⟩
  rw [run_testWith, hsame hsmall]
  rfl

theorem growsAlike_printLine (stream : Stream) (text : String) :
    GrowsAlike (printLine stream text) := by
  rintro ⟨console, left, files, log, patterns, stamp⟩
  rcases left with _ | _ | n <;> exact ⟨rfl, .refl files, fun _ => rfl⟩

theorem growsAlike_read {path : Spelling} {f : Except FileSystem.Fault String → Action α}
    (hf : ∀ found, GrowsAlike (f found)) :
    GrowsAlike (MonadState.get >>= fun w => f (w.files.readText path)) := by
  intro w
  obtain ⟨hlog, hfiles, hsame⟩ := hf (w.files.readText path) w
  exact ⟨hlog, hfiles, hsame⟩

/-- **The checks are those with log files that just grow**, if these are not full in the end. -/
theorem pervasive_growsAlike : Pervasive (fun _ x => GrowsAlike x) fun _ => True where
  pure := .pure
  bind hx hf := hx.bind hf
  record := growsAlike_record
  print := growsAlike_printLine .output
  isUri := growsAlike_testWith Pattern.Shared.isUri
  isLegacy := growsAlike_testWith Pattern.Shared.isLegacy
  isIdentifier := growsAlike_testWith Pattern.Shared.isIdentifier
  read _ _ _ hf := growsAlike_read hf

end

/-! ## Whole runs -/

theorem growsAlike_checkAll (asked : Value) (items : List Item) :
    GrowsAlike (checkAll asked items) := by
  refine pervasive_growsAlike.checkAll asked fun item _ => ?_
  cases item with
  | identifier s => trivial
  | document model path => exact fun _ _ => trivial

/-- If the log files just grew, none would be full behind the checks. -/
def World.Fits (w : World) (a : Arguments) : Prop :=
  Unfilled w.log.handlers ((checkAll a.kind a.items).run w.growing).2.files

/-- What the checks come to when log files just grow they come to if these are not full in the
end. -/
theorem YieldsFrom.of_fits {w : World} {a : Arguments} (hfits : w.Fits a)
    {holds : FileSystem → Prop} {result : Except Escape Nat} {lines : List String}
    (h : YieldsFrom holds w.growing (checkAll a.kind a.items) result lines) :
    YieldsFrom (fun _ => True) w (checkAll a.kind a.items) result lines := by
  obtain ⟨w', hrun, hready, houtput, herror⟩ := h
  have hchecks := (growsAlike_checkAll a.kind a.items w).same hfits
  rw [hrun] at hchecks
  exact ⟨_, hchecks, ⟨hready.patterns, hready.console, fun _ _ _ => trivial, trivial⟩, houtput,
    herror⟩

/-- Worlds that differ in their logs only. -/
def World.SameButLog (w₁ w₂ : World) : Prop := w₁ = { w₂ with log := w₁.log }

theorem agrees_shutdownLog_sameButLog : Agrees World.SameButLog shutdownLog := by
  rintro ⟨console, left, files, log, patterns, stamp⟩ w₂ h
  cases h
  exact ⟨rfl, rfl⟩

theorem agrees_printLine_sameButLog (stream : Stream) (text : String) :
    Agrees World.SameButLog (printLine stream text) := by
  rintro w₁ ⟨console, left, files, log, patterns, stamp⟩ h
  rw [h]
  rcases left with _ | _ | n <;> exact ⟨rfl, rfl⟩

/-- **A run that fills no log file** ends like one whose log files just grow, with the same printed
and the same in the files. -/
theorem checkItems_of_fits {w : World} {a : Arguments} (h : w.Fits a) :
    ((checkItems a).run w).1 = ((checkItems a).run w.growing).1 ∧
      World.SameButLog ((checkItems a).run w).2 ((checkItems a).run w.growing).2 := by
  have hchecks := (growsAlike_checkAll a.kind a.items w).same h
  have hfinish := (agrees_shutdownLog_sameButLog.finish (agrees_printLine_sameButLog .error))
    ((checkAll a.kind a.items).run w.growing).1
    { ((checkAll a.kind a.items).run w.growing).2 with log := w.log } _ rfl
  rw [checkItems, StateT.run_bind, StateT.run_bind, hchecks]
  exact hfinish

/-- Runs over the same items print the same and end alike, if neither fills a log file and the
documents avoid what is written to. -/
theorem checkItems_alike_of_fits {a₁ a₂ : Arguments} (hkind : a₁.kind = a₂.kind)
    (hitems : a₁.items = a₂.items) {start : FileSystem} {written : Path → Prop}
    (hpaths : ∀ item ∈ a₁.items, item.PathIs fun path =>
      ∀ place, written place → ¬ start.LeadsTo (.text path) place)
    {w₁ w₂ : World} (halike : w₁.growing.Alike start written (fun _ => False) w₂.growing)
    (hfits₁ : w₁.Fits a₁) (hfits₂ : w₂.Fits a₂) :
    ((checkItems a₁).run w₁).1 = ((checkItems a₂).run w₂).1 ∧
      ((checkItems a₁).run w₁).2.SameOutput ((checkItems a₂).run w₂).2 := by
  have havoids : ∀ item ∈ a₁.items, item.PathIs fun path =>
      start.Avoids written (fun _ => False) (.text path) := fun item hitem =>
    (hpaths item hitem).mono fun _ hpath => ⟨hpath, fun _ _ => id⟩
  obtain ⟨hexit₁, hsame₁⟩ := checkItems_of_fits hfits₁
  obtain ⟨hexit₂, hsame₂⟩ := checkItems_of_fits hfits₂
  obtain ⟨hexit, houtput⟩ := checkItems_alike hkind hitems havoids halike
  refine ⟨hexit₁.trans (hexit.trans hexit₂.symm), ?_⟩
  rw [hsame₁, hsame₂]
  exact ⟨houtput.printsLeft, houtput.output, houtput.prints⟩

end CredentialCheck.CommandLine
