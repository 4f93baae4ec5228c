import CredentialCheck.CommandLine.Arguments
import CredentialCheck.Log.Level

/-!
# What a command line can ask for

The values of the options that have been read are texts, and those of options with limited choices
are among the choices. The usual values are so, and each argument that is read leaves them so.

* `Invariant` is a property that setting an option keeps, `Invariant.parse` has it for what a whole
  command line asks for.
* `Arguments.Chosen` is the property of such values, `parse_chosen` that they are asked for.
-/

namespace CredentialCheck.CommandLine

/-- What does not begin with a hyphen is no option. -/
theorem classify_plain {s : String} (h : s.toList.head? ≠ some '-') : classify s = .ok .plain := by
  have hdivider : s.toList ≠ ['-', '-'] := by
    intro hs
    rw [hs] at h
    exact h rfl
  rw [classify, if_neg hdivider, if_pos h]

/-! ## Reading on -/

/-- A property of what is asked for that has nothing to do with the identifiers, and that setting an
option keeps if the value is allowed. -/
structure Invariant (P : Arguments → Prop) (allowed : String → Prop) : Prop where
  identifiers : ∀ {a : Arguments} (ids : List String), P a → P { a with identifiers := ids }
  set : ∀ {a a' : Arguments} {o : Switch} {value : String}, P a → allowed value →
    a.set o value = .ok a' → P a'

/-- A token that sets an option to allowed values only: its argument, or what is attached. -/
def Allows (allowed : String → Prop) (p : Token × String) : Prop :=
  allowed p.2 ∧ ∀ o spelling value, p.1 = .option o spelling (some value) → allowed value

section

variable {P : Arguments → Prop} {allowed : String → Prop} {r r' : Reading}

theorem Invariant.reading_value (hP : Invariant P allowed) (h : P r.arguments) (v : String) :
    P (r.value v).arguments := by
  unfold Reading.value
  split
  · exact h
  · exact hP.identifiers _ h

theorem Invariant.reading_set (hP : Invariant P allowed) (h : P r.arguments) {o : Switch}
    {v : String} (hv : allowed v) (hset : r.set o v = .ok r') : P r'.arguments := by
  unfold Reading.set at hset
  cases ha : r.arguments.set o v with
  | error stop =>
    rw [ha] at hset
    cases hset
  | ok a =>
    rw [ha] at hset
    cases hset
    exact hP.set h hv ha

theorem Invariant.reading_run (hP : Invariant P allowed) {tokens : List (Token × String)}
    (htokens : ∀ p ∈ tokens, Allows allowed p) (h : P r.arguments)
    (hrun : r.run tokens = .ok r') : P r'.arguments := by
  fun_induction Reading.run r tokens with
  | case1 r =>
    cases hrun
    exact h
  | case2 r v rest ih | case3 r v rest ih =>
    exact ih (List.forall_mem_cons.1 htokens).2 (hP.reading_value h v) hrun
  | case4 r a rest ih => exact ih (List.forall_mem_cons.1 htokens).2 h hrun
  | case8 r o spelling v a rest _ r' hset ih =>
    obtain ⟨⟨-, hattached⟩, hrest⟩ := List.forall_mem_cons.1 htokens
    exact ih hrest (hP.reading_set h (hattached o spelling v rfl) hset) hrun
  | case10 r o spelling a v rest _ r' hset ih =>
    obtain ⟨-, hrest⟩ := List.forall_mem_cons.1 htokens
    obtain ⟨⟨hv, -⟩, hrest⟩ := List.forall_mem_cons.1 hrest
    exact ih hrest (hP.reading_set h hv hset) hrun
  | case5 | case6 | case7 | case9 | case11 => cases hrun

/-- **What a command line asks for has the property**, if the usual arguments have it and the
command line has allowed values only. -/
theorem Invariant.parse (hP : Invariant P allowed) {settings : Settings} {argv : List String}
    (htokens : ∀ tokens, classifyAll argv = .ok tokens → ∀ p ∈ tokens, Allows allowed p)
    (hinitial : P (.initial settings)) {a : Arguments} (h : parse settings argv = .ok a) : P a := by
  unfold CommandLine.parse at h
  split at h
  · cases h
  next tokens hclassify =>
  split at h
  · cases h
  next r hrun =>
  have hread := hP.reading_run (htokens tokens hclassify) hinitial hrun
  dsimp only at h
  split at h
  · cases h
  split at h
  · cases h
  · cases h
    exact hP.identifiers _ hread

end

/-! ## Values that can be chosen -/

/-- Values that can be chosen: paths are texts, the level and the kind are among their names. -/
structure Arguments.Chosen (a : Arguments) : Prop where
  kind : ∃ name ∈ ["any", "uri", "legacy"], a.kind = .string name
  schemas : ∃ paths : List String, a.schemas = paths.map .string
  credentialDefinitions : ∃ paths : List String, a.credentialDefinitions = paths.map .string
  logLevel : ∃ name ∈ levelNames, a.logLevel = .string name

/-- The names of the levels are known to the log. -/
theorem exists_ofValue_of_levelNames {name : String} (h : name ∈ levelNames) :
    ∃ l, Log.Level.ofValue (.string name) = .ok l := by
  simp only [levelNames, List.mem_cons, List.not_mem_nil, or_false] at h
  rcases h with rfl | rfl | rfl | rfl | rfl <;> exact ⟨_, rfl⟩

theorem resolveLevelName_mem (s : String) : resolveLevelName s ∈ levelNames := by
  unfold resolveLevelName
  simp only
  split
  · next h => exact List.contains_iff_mem.1 h
  · decide

theorem Arguments.chosen_initial (settings : Settings) : (Arguments.initial settings).Chosen :=
  ⟨⟨"any", by decide, rfl⟩, ⟨[], rfl⟩, ⟨[], rfl⟩, ⟨_, resolveLevelName_mem _, rfl⟩⟩

/-- One more text behind texts. -/
theorem exists_map_string_append {values : List Value} (h : ∃ paths : List String,
    values = paths.map .string) (value : String) :
    ∃ paths : List String, values ++ [.string value] = paths.map .string := by
  obtain ⟨paths, rfl⟩ := h
  refine ⟨paths ++ [value], ?_⟩
  rw [List.map_append, List.map_singleton]

theorem Arguments.Chosen.set {a a' : Arguments} (h : a.Chosen) {o : Switch} {value : String}
    (hset : a.set o value = .ok a') : a'.Chosen := by
  obtain ⟨hkind, hschemas, hdefinitions, hlevel⟩ := h
  unfold Arguments.set at hset
  cases o with
  | help => cases hset
  | schema =>
    cases hset
    exact ⟨hkind, exists_map_string_append hschemas value, hdefinitions, hlevel⟩
  | credentialDefinition =>
    cases hset
    exact ⟨hkind, hschemas, exists_map_string_append hdefinitions value, hlevel⟩
  | logFile =>
    cases hset
    exact ⟨hkind, hschemas, hdefinitions, hlevel⟩
  | kind =>
    simp only [Switch.choices?] at hset
    by_cases hchoice : value ∈ ["any", "uri", "legacy"]
    · rw [if_pos hchoice] at hset
      cases hset
      exact ⟨⟨value, hchoice, rfl⟩, hschemas, hdefinitions, hlevel⟩
    · rw [if_neg hchoice] at hset
      cases hset
  | logLevel =>
    simp only [Switch.choices?] at hset
    by_cases hchoice : value ∈ levelNames
    · rw [levelNames] at hchoice
      rw [if_pos hchoice] at hset
      cases hset
      exact ⟨hkind, hschemas, hdefinitions, ⟨value, hchoice, rfl⟩⟩
    · rw [levelNames] at hchoice
      rw [if_neg hchoice] at hset
      cases hset

theorem invariant_chosen : Invariant Arguments.Chosen fun _ => True :=
  ⟨fun _ h => ⟨h.kind, h.schemas, h.credentialDefinitions, h.logLevel⟩, fun h _ hset => h.set hset⟩

/-- **What is asked for can be chosen.** -/
theorem parse_chosen {settings : Settings} {argv : List String} {a : Arguments}
    (h : parse settings argv = .ok a) : a.Chosen :=
  invariant_chosen.parse (fun _ _ _ _ => ⟨trivial, fun _ _ _ _ => trivial⟩)
    (Arguments.chosen_initial settings) h

end CredentialCheck.CommandLine
