import CredentialCheck.Proofs.CommandLine.Arguments
import Mathlib.Data.List.TakeDrop

/-!
# Where the values of options come from

The value of an option is an argument of its own, or what is attached to an option behind an equals
sign or behind a single letter. In each case it is the end of an argument: nothing is put into a
value that is not written on the command line.

* `Token.CutFrom` says this of a token, `classify_cutFrom` proves it of what an argument is taken
  for.
* `parse_cutFrom`: the paths that a command line names are ends of its arguments.
-/

namespace CredentialCheck.CommandLine

/-! ## Tokens -/

/-- What is attached to the token is the end of the argument. -/
def Token.CutFrom (argument : String) (token : Token) : Prop :=
  ∀ o spelling value, token = .option o spelling (some value) → value.toList <:+ argument.toList

theorem cutFrom_plain (argument : String) : Token.plain.CutFrom argument := by
  rintro o spelling value ⟨⟩

theorem cutFrom_unattached (argument : String) (o : Switch) (spelling : String) :
    (Token.option o spelling none).CutFrom argument := by
  rintro o spelling value ⟨⟩

theorem cutFrom_attached {argument : String} {o : Switch} {spelling : String} {value : List Char}
    (h : value <:+ argument.toList) :
    (Token.option o spelling (some (String.ofList value))).CutFrom argument := by
  rintro o spelling value ⟨⟩
  rw [String.toList_ofList]
  exact h

/-- What stands behind an equals sign is the end of the text. -/
theorem suffix_of_splitAtEquals {s name value : List Char}
    (h : splitAtEquals s = (name, some value)) : value <:+ s := by
  unfold splitAtEquals at h
  split at h
  · next equals rest hspan =>
    cases h
    rw [List.span_eq_takeWhile_dropWhile] at hspan
    obtain ⟨-, hrest⟩ := Prod.mk.inj hspan
    have hsuffix := List.dropWhile_suffix (l := s) (· ≠ '=')
    rw [hrest] at hsuffix
    exact (List.suffix_cons _ _).trans hsuffix
  · cases h

/-- What is attached to a candidate is the end of the argument. -/
theorem suffix_of_mem_candidates {s : List Char} {o : Switch} {spelling value : String}
    (h : (o, spelling, some value) ∈ candidates s) : value.toList <:+ s := by
  unfold candidates at h
  split at h
  · next s =>
    dsimp only at h
    obtain ⟨⟨long, o'⟩, -, hsome⟩ := List.mem_filterMap.1 h
    split at hsome
    · cases hvalue : (splitAtEquals ('-' :: '-' :: s)).2 with
      | none => simp [hvalue] at hsome
      | some rest =>
        rw [hvalue] at hsome
        cases hsome
        rw [String.toList_ofList]
        exact suffix_of_splitAtEquals (Prod.ext rfl hvalue)
    · cases hsome
  · next c attached _ =>
    obtain ⟨⟨short, o'⟩, -, hsome⟩ := List.mem_filterMap.1 h
    dsimp only at hsome
    split at hsome
    · cases hsome
      rw [String.toList_ofList]
      exact (List.suffix_cons _ _).trans (List.suffix_cons _ _)
    · cases hsome
  · exact absurd h List.not_mem_nil

theorem classify_cutFrom {argument : String} {token : Token} (h : classify argument = .ok token) :
    token.CutFrom argument := by
  unfold classify at h
  dsimp only at h
  split at h
  · cases h
    rintro o spelling value ⟨⟩
  split at h
  · cases h
    exact cutFrom_plain argument
  split at h
  · cases h
    exact cutFrom_unattached argument _ _
  split at h
  · cases h
    exact cutFrom_plain argument
  split at h
  · next rest value o hargument hvalue _ =>
    cases h
    exact cutFrom_attached (suffix_of_splitAtEquals (Prod.ext rfl hvalue))
  split at h
  · next o spelling attached hone =>
    cases h
    rintro o' spelling' value ⟨⟩
    exact suffix_of_mem_candidates (hone ▸ List.mem_singleton_self _)
  · cases h
  · split at h
    · cases h
      exact cutFrom_plain argument
    · cases h
      rintro o spelling value ⟨⟩

/-- Each token is cut from the argument that stands beside it. -/
theorem classifyAll_cutFrom {argv : List String} {tokens : List (Token × String)}
    (h : classifyAll argv = .ok tokens) :
    ∀ p ∈ tokens, p.2 ∈ argv ∧ p.1.CutFrom p.2 := by
  fun_induction classifyAll argv generalizing tokens with
  | case1 =>
    cases h
    exact fun _ hp => absurd hp List.not_mem_nil
  | case2 => cases h
  | case3 argument rest hdivider =>
    cases h
    intro p hp
    rcases List.mem_cons.1 hp with rfl | hp
    · exact ⟨List.mem_cons_self, classify_cutFrom hdivider⟩
    · obtain ⟨other, hother, rfl⟩ := List.mem_map.1 hp
      exact ⟨List.mem_cons_of_mem _ hother, cutFrom_plain other⟩
  | case4 argument rest token hne htoken ih =>
    cases hrest : classifyAll rest with
    | error r =>
      rw [hrest] at h
      cases h
    | ok others =>
      rw [hrest] at h
      cases h
      intro p hp
      rcases List.mem_cons.1 hp with rfl | hp
      · exact ⟨List.mem_cons_self, classify_cutFrom htoken⟩
      · obtain ⟨hargument, hcut⟩ := ih hrest p hp
        exact ⟨List.mem_cons_of_mem _ hargument, hcut⟩

/-! ## Arguments -/

/-- The text is the end of an argument. -/
def EndsOne (argv : List String) (value : String) : Prop :=
  ∃ argument ∈ argv, value.toList <:+ argument.toList

/-- The paths are ends of arguments; the log file may also be the one of the settings. -/
structure Arguments.CutFrom (settings : Settings) (argv : List String) (a : Arguments) : Prop where
  schemas : ∀ v ∈ a.schemas, ∃ path, v = .string path ∧ EndsOne argv path
  credentialDefinitions :
    ∀ v ∈ a.credentialDefinitions, ∃ path, v = .string path ∧ EndsOne argv path
  logFile : a.logFile = (Arguments.initial settings).logFile ∨
    ∃ path, a.logFile = .string path ∧ EndsOne argv path

section

variable {settings : Settings} {argv : List String}

theorem cutFrom_initial (settings : Settings) (argv : List String) :
    (Arguments.initial settings).CutFrom settings argv :=
  ⟨fun _ h => absurd h List.not_mem_nil, fun _ h => absurd h List.not_mem_nil, .inl rfl⟩

theorem Arguments.CutFrom.set {a a' : Arguments} (h : a.CutFrom settings argv) {o : Switch}
    {value : String} (hvalue : EndsOne argv value) (hset : a.set o value = .ok a') :
    a'.CutFrom settings argv := by
  obtain ⟨hschemas, hdefinitions, hlogFile⟩ := h
  have happend {values : List Value}
      (hvalues : ∀ v ∈ values, ∃ path, v = .string path ∧ EndsOne argv path) :
      ∀ v ∈ values ++ [.string value], ∃ path, v = .string path ∧ EndsOne argv path := by
    intro v hv
    rcases List.mem_append.1 hv with hv | hv
    · exact hvalues v hv
    · exact ⟨value, List.mem_singleton.1 hv, hvalue⟩
  unfold Arguments.set at hset
  dsimp only at hset
  split at hset
  · cases hset
  · cases hset
  · cases hset
    exact ⟨hschemas, hdefinitions, hlogFile⟩
  · cases hset
    exact ⟨happend hschemas, hdefinitions, hlogFile⟩
  · cases hset
    exact ⟨hschemas, happend hdefinitions, hlogFile⟩
  · cases hset
    exact ⟨hschemas, hdefinitions, hlogFile⟩
  · cases hset
    exact ⟨hschemas, hdefinitions, .inr ⟨value, rfl, hvalue⟩⟩

/-- **The paths that a command line names are ends of its arguments.** -/
theorem parse_cutFrom {a : Arguments} (h : parse settings argv = .ok a) :
    a.CutFrom settings argv := by
  have hinvariant : Invariant (Arguments.CutFrom settings argv) (EndsOne argv) :=
    ⟨fun _ h => ⟨h.schemas, h.credentialDefinitions, h.logFile⟩, fun h hv hset => h.set hv hset⟩
  refine hinvariant.parse (fun tokens htokens p hp => ?_) (cutFrom_initial settings argv) h
  obtain ⟨hargument, hcut⟩ := classifyAll_cutFrom htokens p hp
  exact ⟨⟨p.2, hargument, List.suffix_refl _⟩,
    fun o spelling value hoption => ⟨p.2, hargument, hcut o spelling value hoption⟩⟩

end

end CredentialCheck.CommandLine
