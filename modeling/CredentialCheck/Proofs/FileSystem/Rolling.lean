import CredentialCheck.Log.Rotation
import CredentialCheck.Proofs.FileSystem.Writing
import Mathlib.Data.List.Infix

/-!
# Rolling log files over

Rolling a log file over moves its backups, with everything below them if they are directories, and
begins an empty file. What stands elsewhere stays as it is, and so does the place that is moved out
of the way: a file stands there before and afterwards. A file that no line fills is never moved.

* `Path.InBackup`: the places that rolling over may change.
* `node?_rename`: what stands where after something has been moved beside where it was.
* `sameBut_rollOver` and `sameBut_writeLine`: what is left alone.
* `writeLine_eq_append`: a line that does not fill the file.
-/

namespace CredentialCheck

/-- The place is that of a backup of the file at `place`, or lies below one. -/
def Path.InBackup (place other : Path) : Prop :=
  ∃ number, 0 < number ∧ number ≤ Log.backupCount ∧ place.backup number <+: other

namespace FileSystem

open Log

variable {written moved : Path → Prop} {fs fs' : FileSystem} {base place : Path}
  {old new : FileName} {whenFull : WhenFull} {line : String}

/-! ## Moving -/

/-- Above a place that is not at or below `base ++ [name]`, what lies there makes no difference. -/
theorem prefix_append_iff {name : FileName} (h : ¬ base ++ [name] <+: place) (rest : Path) :
    place <+: base ++ [name] ++ rest ↔ place <+: base := by
  have hname : base ++ [name] <+: base ++ [name] ++ rest := List.prefix_append _ _
  constructor
  · intro hplace
    have hshort := (List.prefix_or_prefix_of_prefix hplace hname).resolve_right h
    rcases List.prefix_concat_iff.1 hshort with rfl | hbase
    · exact absurd List.prefix_rfl h
    · exact hbase
  · exact fun hplace => (hplace.trans (List.prefix_append _ _)).trans hname

theorem moved_append (source target rest : Path) :
    Path.moved source target (source ++ rest) = target ++ rest := by
  rw [Path.moved, if_pos (List.isPrefixOf_iff_prefix.2 (List.prefix_append _ _)),
    List.drop_left]

theorem moved_of_not_below {source : Path} (target : Path) (h : ¬ source <+: place) :
    Path.moved source target place = place := by
  rw [Path.moved, if_neg (mt List.isPrefixOf_iff_prefix.1 h)]

/-- Nothing is moved to or from a place that is neither at or below the source nor the target. -/
theorem moved_eq_iff {source target : Path} (hsource : ¬ source <+: place)
    (htarget : ¬ target <+: place) (path : Path) :
    Path.moved source target path = place ↔ path = place := by
  by_cases hpath : source <+: path
  · obtain ⟨rest, rfl⟩ := hpath
    rw [moved_append]
    constructor
    · rintro rfl
      exact absurd (List.prefix_append _ _) htarget
    · rintro rfl
      exact absurd (List.prefix_append _ _) hsource
  · rw [moved_of_not_below target hpath]

/-- The directory above which a place stands may be moved beside where it was. -/
theorem prefix_moved_iff (hold : ¬ base ++ [old] <+: place) (hnew : ¬ base ++ [new] <+: place)
    (directory : Path) :
    place <+: Path.moved (base ++ [old]) (base ++ [new]) directory ↔ place <+: directory := by
  by_cases hdirectory : base ++ [old] <+: directory
  · obtain ⟨rest, rfl⟩ := hdirectory
    rw [moved_append, prefix_append_iff hold, prefix_append_iff hnew]
  · rw [moved_of_not_below _ hdirectory]

/-- **What is neither below the old place nor below the new one stands where it was.** -/
theorem node?_rename (hold : ¬ base ++ [old] <+: place) (hnew : ¬ base ++ [new] <+: place) :
    (fs.rename (base ++ [old]) (base ++ [new])).node? place = fs.node? place := by
  have hdirectory := prefix_moved_iff hold hnew fs.directory
  rw [← List.isPrefixOf_iff_prefix, ← List.isPrefixOf_iff_prefix] at hdirectory
  have hkey : ((fun n : Path × Node => n.1 == place) ∘
      fun n : Path × Node => (Path.moved (base ++ [old]) (base ++ [new]) n.1, n.2)) =
        fun n => n.1 == place := by
    funext n
    rw [Function.comp_apply, Bool.eq_iff_iff, beq_iff_eq, beq_iff_eq, moved_eq_iff hold hnew]
  unfold node? rename
  simp only [hdirectory, List.find?_map, hkey, Option.map_map]
  rfl

theorem sameBut_rename (hold : ∀ place, base ++ [old] <+: place → moved place)
    (hnew : ∀ place, base ++ [new] <+: place → moved place) :
    SameBut written moved fs (fs.rename (base ++ [old]) (base ++ [new])) := by
  refine ⟨?_, fun place hplace => .inl (node?_rename (mt (hold place) hplace)
    (mt (hnew place) hplace))⟩
  change Path.moved (base ++ [old]) (base ++ [new]) fs.directory = fs.directory ∨
    moved fs.directory ∧ moved (Path.moved (base ++ [old]) (base ++ [new]) fs.directory)
  by_cases hdirectory : base ++ [old] <+: fs.directory
  · obtain ⟨rest, hrest⟩ := hdirectory
    rw [← hrest, moved_append]
    exact .inr ⟨hold _ (List.prefix_append _ _), hnew _ (List.prefix_append _ _)⟩
  · exact .inl (moved_of_not_below _ hdirectory)

theorem sameBut_remove? (h : fs.remove? place = some fs') (hplace : moved place) :
    SameBut written moved fs fs' := by
  have hremoved : fs' = { fs with nodes := fs.nodes.filter fun n => n.1 ≠ place } := by
    unfold remove? at h
    split at h <;> cases h
    rfl
  subst hremoved
  refine ⟨.inl rfl, fun path hpath => .inl ?_⟩
  have hne : place ≠ path := fun heq => hpath (heq ▸ hplace)
  have hkey (n : Path × Node) :
      decide (decide (n.1 ≠ place) = true ∧ (n.1 == path) = true) = (n.1 == path) := by
    by_cases hn : n.1 = path
    · simp [hn, hne.symm]
    · simp [hn]
  unfold node?
  simp only [List.find?_filter, hkey]

/-! ## Rolling over -/

section

variable (hmoved : ∀ other, place.InBackup other → moved other)

include hmoved

theorem sameBut_moveBackup {number : Nat} (hpos : 0 < number) (hlt : number < backupCount)
    (h : fs.moveBackup place number = some fs') : SameBut written moved fs fs' := by
  have hbelow (i : Nat) (hi : 0 < i) (hi' : i ≤ backupCount) (other : Path)
      (hother : place.backup i <+: other) : moved other :=
    hmoved other ⟨i, hi, hi', hother⟩
  unfold moveBackup at h
  split at h
  · obtain ⟨removed, hremoved, rfl⟩ := Option.map_eq_some_iff.1 h
    have hfree : SameBut written moved fs removed :=
      sameBut_remove? hremoved (hbelow _ (Nat.succ_pos _) hlt _ List.prefix_rfl)
    exact hfree.trans (sameBut_rename (hbelow _ hpos (Nat.le_of_lt hlt))
      (hbelow _ (Nat.succ_pos _) hlt))
  · cases h
    exact .refl written moved fs

theorem sameBut_moveBackups {number : Nat} (hlt : number < backupCount)
    (h : fs.moveBackups place number = some fs') : SameBut written moved fs fs' := by
  induction number generalizing fs fs' with
  | zero =>
    cases h
    exact .refl written moved fs
  | succ number ih =>
    obtain ⟨between, hfirst, hrest⟩ := Option.bind_eq_some_iff.1 h
    exact (sameBut_moveBackup hmoved (Nat.succ_pos _) hlt hfirst).trans
      (ih (Nat.lt_of_succ_lt hlt) hrest)

/-- **Rolling over changes the file itself and what is at or below its backups.** -/
theorem sameBut_rollOver (hplace : written place) {content : List UInt8}
    (hcontent : fs.content? place = some content) (h : fs.rollOver place content = some fs') :
    SameBut written moved fs fs' := by
  obtain ⟨shifted, hshifted, h⟩ := Option.bind_eq_some_iff.1 h
  obtain ⟨freed, hfreed, rfl⟩ := Option.map_eq_some_iff.1 h
  have hfirst : moved (place.backup 1) := hmoved _ ⟨1, by decide, by decide, List.prefix_rfl⟩
  have hbackups : SameBut written moved fs freed :=
    (sameBut_moveBackups hmoved (by decide) hshifted).trans (sameBut_remove? hfreed hfirst)
  have hkept : SameBut written moved fs (freed.put (place.backup 1) (.file content)) := by
    refine hbackups.trans ⟨.inl (directory_put freed _ _), fun other hother => .inl ?_⟩
    have hne : other ≠ place.backup 1 := by
      rintro rfl
      exact hother hfirst
    exact node?_put_of_ne hne freed _
  refine hkept.trans (.put_file hplace fun hstays => ?_)
  -- the place itself still has a file, as only backups have been touched so far
  rcases hkept.node place hstays with heq | ⟨-, -, c, -, hc⟩
  · exact ⟨content, heq.trans (content?_eq_some_iff.1 hcontent)⟩
  · exact ⟨c, hc⟩

end

/-! ## Writing a line -/

/-- A line is written at the end of the file, or lost, or written to an empty file when the other
has been moved. -/
theorem writeLine_cases (fs : FileSystem) (place : Path) (whenFull : WhenFull) (line : String) :
    fs.writeLine place whenFull line = fs.append place (Text.Utf8.encode line.toList) ∨
      fs.writeLine place whenFull line = fs ∨
      whenFull = .rollsOver ∧ ∃ content rolled, fs.content? place = some content ∧
        fs.rollOver place content = some rolled ∧
        fs.writeLine place whenFull line = rolled.append place (Text.Utf8.encode line.toList) := by
  unfold writeLine
  dsimp only
  split
  · next content hcontent =>
    split
    · split
      · next rolled hrolled => exact .inr (.inr ⟨rfl, content, rolled, hcontent, hrolled, rfl⟩)
      · exact .inr (.inl rfl)
    · exact .inl rfl
  · split
    · exact .inr (.inl rfl)
    · exact .inl rfl
  · exact .inl rfl

/-- **A line changes the file at its place, and the backups of the file if that is rolled over.** -/
theorem sameBut_writeLine (hplace : written place)
    (hmoved : whenFull = .rollsOver → ∀ other, place.InBackup other → moved other) :
    SameBut written moved fs (fs.writeLine place whenFull line) := by
  rcases writeLine_cases fs place whenFull line with
    heq | heq | ⟨hrolls, content, rolled, hcontent, hrolled, heq⟩
  · rw [heq]
    exact sameBut_append hplace _
  · rw [heq]
    exact .refl written moved fs
  · rw [heq]
    exact (sameBut_rollOver (hmoved hrolls) hplace hcontent hrolled).append hplace _

/-- A line that does not fill the file is written at its end. -/
theorem writeLine_eq_append (h : whenFull ≠ .grows → ∀ content, fs.content? place = some content →
    wouldFill content line = false) :
    fs.writeLine place whenFull line = fs.append place (Text.Utf8.encode line.toList) := by
  unfold writeLine
  dsimp only
  split
  · next content hcontent =>
    rw [if_neg (by simp [h (by decide) content hcontent])]
  · next content hcontent =>
    rw [if_neg (by simp [h (by decide) content hcontent])]
  · rfl

/-- A line of so many characters has at least as many bytes. -/
theorem length_le_length_encode (line : String) :
    line.length ≤ (Text.Utf8.encode line.toList).length := by
  rw [← String.length_toList]
  induction line.toList with
  | nil => exact Nat.zero_le _
  | cons c s ih =>
    have hchar : 1 ≤ (Text.Utf8.encodeChar c).length := by
      unfold Text.Utf8.encodeChar
      dsimp only
      split_ifs <;> simp
    simp only [Text.Utf8.encode, List.flatMap_cons, List.length_append, List.length_cons] at ih ⊢
    omega

/-- No line fills a file that stays below the limit with it. -/
theorem wouldFill_eq_false {content : List UInt8}
    (h : (content ++ Text.Utf8.encode line.toList).length < maxBytes) :
    wouldFill content line = false := by
  have hline := length_le_length_encode line
  rw [List.length_append] at h
  exact decide_eq_false (by omega)

/-- A line changes nothing at another place, unless that is a backup or lies below one. -/
theorem node?_writeLine_of_ne {other : Path} (hne : place ≠ other)
    (hapart : whenFull = .rollsOver → ¬ other.InBackup place) :
    (fs.writeLine other whenFull line).node? place = fs.node? place := by
  have hsame : SameBut (· = other) (fun q => whenFull = .rollsOver ∧ other.InBackup q) fs
      (fs.writeLine other whenFull line) :=
    sameBut_writeLine rfl fun hrolls _ hother => ⟨hrolls, hother⟩
  have hnode := hsame.node place fun hboth => hapart hboth.1 hboth.2
  exact hnode.resolve_right fun hboth => hne hboth.1

end FileSystem

end CredentialCheck
