import CredentialCheck.Log.Root
import CredentialCheck.Proofs.CommandLine.Arguments
import CredentialCheck.Proofs.Text.Capitals

/-!
# Names of levels

A text names a level if, without the white space around it, it spells the name: letter by letter, in
either case, where a dotless i passes for an I. No other character has a capital form in one of the
names, and the usual level stands for every text that names none.

* `isPlainWord_of_levelNames`: the names are words of the sort that capitals decide.
* `resolveLevelName_eq_iff` is the statement about one name, `resolveLevelName_recognises` the one
  about all of them and about the setting in the environment.
-/

namespace CredentialCheck

open CommandLine (Arguments Switch)
open Log (Root Level)

/-! ## Spelling a name -/

/-- No name has an S, and there is no pair of letters in them that one character stands for. -/
theorem isPlainWord_of_levelNames {name : String} (h : name ∈ levelNames) :
    Text.IsPlainWord name.toList := by
  have hcapital : ∀ name ∈ levelNames, name.toList.all (Text.IsCapital ·) = true := by decide
  have hnoS : ∀ name ∈ levelNames, 'S' ∉ name.toList := by decide
  have hexpansion : ∀ name ∈ levelNames, ∀ e ∈ Text.upperCaseExpansions,
      ¬ e.2.map Char.ofNat <:+: name.toList := by
    decide +kernel
  exact ⟨fun d hd => of_decide_eq_true (List.all_eq_true.1 (hcapital name h) d hd), hnoS name h,
    hexpansion name h⟩

theorem resolveLevelName_of_mem : ∀ name ∈ levelNames, resolveLevelName name = name := by
  decide +kernel

/-- Without the white space around it, the text spells the name. -/
def Names (v name : String) : Prop :=
  List.Forall₂ Text.Spells (Text.trim v.toList) name.toList

instance (v name : String) : Decidable (Names v name) :=
  inferInstanceAs (Decidable (List.Forall₂ ..))

/-- **The texts that name a level** other than the usual one. -/
theorem resolveLevelName_eq_iff {v name : String} (hname : name ∈ levelNames)
    (hunusual : name ≠ usualLevel) : resolveLevelName v = name ↔ Names v name := by
  have hspelled : String.ofList (Text.toUpper (Text.trim v.toList)) = name ↔ Names v name := by
    rw [Names, ← Text.toUpper_eq_iff (isPlainWord_of_levelNames hname), String.ext_iff,
      String.toList_ofList]
  rw [← hspelled]
  unfold resolveLevelName
  dsimp only
  split
  · exact Iff.rfl
  · next hnone =>
    refine iff_of_false (Ne.symm hunusual) fun heq => hnone ?_
    rw [heq]
    exact List.contains_iff_mem.2 hname

/-- The usual level is that of the texts that name no other. -/
theorem resolveLevelName_eq_usualLevel_iff {v : String} : resolveLevelName v = usualLevel ↔
    ∀ name ∈ levelNames, name ≠ usualLevel → ¬ Names v name := by
  constructor
  · intro h name hname hunusual hspelled
    exact hunusual (((resolveLevelName_eq_iff hname hunusual).2 hspelled).symm.trans h)
  · intro h
    by_contra hother
    have hmem := CommandLine.resolveLevelName_mem v
    exact h _ hmem hother ((resolveLevelName_eq_iff hmem hother).1 rfl)

/-- Only the capitals of what is left without the white space matter. -/
theorem resolveLevelName_congr {v w : String}
    (h : Text.toUpper (Text.trim w.toList) = Text.toUpper (Text.trim v.toList)) :
    resolveLevelName w = resolveLevelName v := by
  unfold resolveLevelName
  rw [h]

theorem toList_toLower (s : String) : s.toLower.toList = s.toList.map Char.toLower :=
  String.toList_map

/-- The case of ASCII letters makes no difference. -/
theorem resolveLevelName_of_toLower_eq {v w : String} (h : w.toLower = v.toLower) :
    resolveLevelName w = resolveLevelName v := by
  have hlower : w.toList.map Char.toLower = v.toList.map Char.toLower := by
    rw [← toList_toLower, ← toList_toLower, h]
  refine resolveLevelName_congr ?_
  rw [← Text.toUpper_map_toLower, ← Text.trim_map_toLower, hlower, Text.trim_map_toLower,
    Text.toUpper_map_toLower]

/-! ## Setting up with a name -/

/-- With a level, only the log file can keep the log from being set up. -/
theorem Log.setup_fst_of_level {level : Value} {l : Level} (hl : Level.ofValue level = .ok l)
    (r : Root) (files : FileSystem) (trouble : Log.Trouble) (logFile : Value) :
    (r.setup files trouble level logFile).1 =
      ((r.shutdown trouble).1.installAll files logFile).1 := by
  unfold Root.setup
  split
  · next hinstall => rw [hinstall]
  · next hinstall => rw [hinstall, hl]

theorem Log.installAll_ne_level (r : Root) (files : FileSystem) (logFile : Value)
    (fault : Log.LevelFault) : (r.installAll files logFile).1 ≠ .error (.level fault) := by
  unfold Root.installAll
  dsimp only
  split
  · next f hpath =>
    intro h
    cases h
    unfold Root.logPath? at hpath
    split at hpath
    · cases hpath
    · cases hpath
    · split at hpath <;> cases hpath
  · exact fun h => nomatch h
  · split <;> exact fun h => nomatch h

/-! ## Names in the environment -/

theorem logLevel_ofEnvironment (env : List (String × String)) :
    (Settings.ofEnvironment env).logLevel =
      resolveLevelName ((env.lookup levelVariable).getD usualLevel) := by
  have hlookup : (env.find? (·.1 == levelVariable)).map Prod.snd = env.lookup levelVariable := by
    induction env with
    | nil => rfl
    | cons entry env ih =>
      rw [List.find?_cons, List.lookup_cons, BEq.comm (a := levelVariable)]
      cases entry.1 == levelVariable
      · exact ih
      · rfl
  unfold Settings.ofEnvironment
  dsimp only
  rw [hlookup]

/-- **The names of levels.** Every text stands for one of the levels: for one that it spells, in
whatever case and with white space around it, and for the usual one if it spells none. The level
stands for itself. Where the text is the setting in the environment, its level is the usual value
of the option, which is among the choices, and with which the log is set up; only the log file can
keep it from being so. -/
theorem resolveLevelName_recognises (v : String) :
    (resolveLevel (.string v) = .ok (resolveLevelName v) ∧ resolveLevelName v ∈ levelNames ∧
        (∀ name ∈ levelNames, name ≠ usualLevel → (resolveLevelName v = name ↔ Names v name)) ∧
        (resolveLevelName v = usualLevel ↔
          ∀ name ∈ levelNames, name ≠ usualLevel → ¬ Names v name)) ∧
      (resolveLevelName (resolveLevelName v) = resolveLevelName v ∧
        (∀ before behind : String, before.toList.all Text.isBlank = true →
          behind.toList.all Text.isBlank = true →
          resolveLevelName (before ++ v ++ behind) = resolveLevelName v) ∧
        ∀ w : String, w.toLower = v.toLower → resolveLevelName w = resolveLevelName v) ∧
      ∀ env : List (String × String), (env.lookup levelVariable).getD usualLevel = v →
        (Arguments.initial (.ofEnvironment env)).logLevel = .string (resolveLevelName v) ∧
        (∃ choices, Switch.logLevel.choices? = some choices ∧ resolveLevelName v ∈ choices) ∧
        ∀ (r : Root) (files : FileSystem) (trouble : Log.Trouble),
          (r.setup files trouble (.string (resolveLevelName v)) .null).1 = .ok () ∧
          ∀ logFile fault, (r.setup files trouble (.string (resolveLevelName v)) logFile).1 ≠
            .error (.level fault) := by
  have hmem := CommandLine.resolveLevelName_mem v
  obtain ⟨l, hl⟩ := CommandLine.exists_ofValue_of_levelNames hmem
  refine ⟨⟨rfl, hmem, fun _ => resolveLevelName_eq_iff, resolveLevelName_eq_usualLevel_iff⟩,
    ⟨resolveLevelName_of_mem _ hmem, fun before behind hbefore hbehind => ?_,
      fun _ => resolveLevelName_of_toLower_eq⟩,
    fun env henv => ⟨?_, ⟨levelNames, rfl, hmem⟩, fun r files trouble => ⟨?_, ?_⟩⟩⟩
  · refine resolveLevelName_congr ?_
    rw [String.toList_append, String.toList_append, Text.trim_enclosed (List.all_eq_true.1 hbefore)
      (List.all_eq_true.1 hbehind)]
  · rw [Arguments.initial, logLevel_ofEnvironment, henv, resolveLevelName_of_mem _ hmem]
  · rw [Log.setup_fst_of_level hl]
    rfl
  · intro logFile fault
    rw [Log.setup_fst_of_level hl]
    exact Log.installAll_ne_level _ files logFile fault

/-- A dotless i, mixed case, and white space that no keyboard has, in the environment. -/
theorem resolveLevelName_recognises_critical :
    (("CRITICAL" ∈ levelNames ∧ "CRITICAL" ≠ usualLevel ∧
          Names "\u2003cr\u0131Tical\n" "CRITICAL") ∧
        ("\u2003".toList.all Text.isBlank = true ∧ "\n".toList.all Text.isBlank = true) ∧
        "CR\u0131TICAL".toLower = "cr\u0131Tical".toLower ∧
        ([(levelVariable, "cr\u0131Tical")].lookup levelVariable).getD usualLevel =
          "cr\u0131Tical") ∧
      resolveLevelName "\u2003cr\u0131Tical\n" = "CRITICAL" ∧
      resolveLevelName "CR\u0131TICAL" = "CRITICAL" ∧
      (Arguments.initial (.ofEnvironment [(levelVariable, "cr\u0131Tical")])).logLevel =
        .string "CRITICAL" ∧
      (Root.fresh.setup (.usual []) .none (.string "CRITICAL") .null).1 = .ok () := by
  have hname : "CRITICAL" ∈ levelNames ∧ "CRITICAL" ≠ usualLevel ∧
      Names "\u2003cr\u0131Tical\n" "CRITICAL" := by
    decide +kernel
  have hblank : "\u2003".toList.all Text.isBlank = true ∧
      "\n".toList.all Text.isBlank = true := by
    decide
  have hcase : "CR\u0131TICAL".toLower = "cr\u0131Tical".toLower := by
    rw [← String.toList_inj, toList_toLower, toList_toLower]
    decide
  have henv : ([(levelVariable, "cr\u0131Tical")].lookup levelVariable).getD usualLevel =
      "cr\u0131Tical" := by
    decide
  obtain ⟨hmem, hunusual, hspelled⟩ := hname
  have henclosed : resolveLevelName "\u2003cr\u0131Tical\n" = "CRITICAL" :=
    ((resolveLevelName_recognises _).1.2.2.1 _ hmem hunusual).2 hspelled
  obtain ⟨-, ⟨-, hspace, hlower⟩, hsetting⟩ := resolveLevelName_recognises "cr\u0131Tical"
  have hinner : resolveLevelName "cr\u0131Tical" = "CRITICAL" :=
    (hspace "\u2003" "\n" hblank.1 hblank.2).symm.trans henclosed
  obtain ⟨hdefault, -, haccepted⟩ := hsetting _ henv
  rw [hinner] at hdefault haccepted
  exact ⟨⟨⟨hmem, hunusual, hspelled⟩, hblank, hcase, henv⟩, henclosed,
    (hlower _ hcase).trans hinner, hdefault, (haccepted _ _ _).1⟩

end CredentialCheck
