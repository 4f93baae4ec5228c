import CredentialCheck.Proofs.CommandLine.Report

/-!
# Identifiers and options in any order

A command line is written piece by piece: identifiers, and options with their values, in any order.
Nothing of it gets lost. If the identifiers stand together, wherever that is among the options, all
of them are checked in their order, and so are the files of each option, under the kind given last.
If an option stands between two identifiers, the command line is refused as a whole.

* `Piece` is a piece of a command line, `Separated` says that an option stands between identifiers.
* `Reading.take` is what a piece adds to a reading; reading the pieces adds them one by one
  (`Reading.run_tokens`).
* `identifiers_append_extras`: each identifier is either accepted or left over.
* `extras_eq_nil_iff`: none is left over just if none are separated.
* `pieces_run` is the statement about whole runs.
-/

namespace CredentialCheck.CommandLine

/-! ## Pieces -/

/-- A piece of a command line. -/
inductive Piece
  | identifier (s : String)
  | kind (name : String)
  | schema (path : String)
  | definition (path : String)

namespace Piece

/-- The arguments that the piece is written as. -/
def arguments : Piece → List String
  | .identifier s => [s]
  | .kind name => ["--kind", name]
  | .schema path => ["--schema", path]
  | .definition path => ["--cred-def", path]

/-- Whether a text is no option: it does not begin with a hyphen. -/
def IsPlain (s : String) : Prop := s.toList.head? ≠ some '-'

/-- Whether the piece is written well. -/
def Proper : Piece → Prop
  | .identifier s => IsPlain s
  | .kind name => name ∈ ["any", "uri", "legacy"]
  | .schema path => IsPlain path
  | .definition path => IsPlain path

/-- The identifier that the piece is. -/
def identifier? : Piece → Option String
  | .identifier s => some s
  | _ => none

/-- The kind that the piece asks for. -/
def kind? : Piece → Option String
  | .kind name => some name
  | _ => none

/-- The schema that the piece names. -/
def schema? : Piece → Option String
  | .schema path => some path
  | _ => none

/-- The credential definition that the piece names. -/
def definition? : Piece → Option String
  | .definition path => some path
  | _ => none

end Piece

open Piece

/-- What the pieces ask for, each sort in its order. -/
def askedFor (settings : Settings) (pieces : List Piece) : Arguments :=
  { Arguments.initial settings with
    identifiers := pieces.filterMap identifier?
    kind := .string ((pieces.filterMap kind?).getLast?.getD "any")
    schemas := (pieces.filterMap schema?).map .string
    credentialDefinitions := (pieces.filterMap definition?).map .string }

/-- An option stands between two identifiers. -/
def Separated (pieces : List Piece) : Prop :=
  ∃ x o y, identifier? o = none ∧ [.identifier x, o, .identifier y].Sublist pieces

/-! ## Identifiers that stand together -/

/-- An identifier stands behind an option. -/
def Trails (pieces : List Piece) : Prop :=
  ∃ o y, identifier? o = none ∧ [o, .identifier y].Sublist pieces

section

variable {o : Piece} {pieces : List Piece}

theorem not_separated_nil : ¬ Separated [] := by
  rintro ⟨x, o, y, -, hsub⟩
  cases hsub

theorem not_trails_nil : ¬ Trails [] := by
  rintro ⟨o, y, -, hsub⟩
  cases hsub

theorem separated_cons_option (ho : identifier? o = none) :
    Separated (o :: pieces) ↔ Separated pieces := by
  constructor
  · rintro ⟨x, p, y, hp, hsub⟩
    cases hsub with
    | cons _ hsub => exact ⟨x, p, y, hp, hsub⟩
    | cons_cons _ hsub => cases ho
  · rintro ⟨x, p, y, hp, hsub⟩
    exact ⟨x, p, y, hp, hsub.cons o⟩

theorem separated_cons_identifier {x : String} :
    Separated (.identifier x :: pieces) ↔ Trails pieces := by
  constructor
  · rintro ⟨x, p, y, hp, hsub⟩
    cases hsub with
    | cons _ hsub => exact ⟨p, y, hp, (List.sublist_cons_self _ _).trans hsub⟩
    | cons_cons _ hsub => exact ⟨p, y, hp, hsub⟩
  · rintro ⟨p, y, hp, hsub⟩
    exact ⟨x, p, y, hp, hsub.cons_cons _⟩

theorem trails_cons_identifier {x : String} :
    Trails (.identifier x :: pieces) ↔ Trails pieces := by
  constructor
  · rintro ⟨p, y, hp, hsub⟩
    cases hsub with
    | cons _ hsub => exact ⟨p, y, hp, hsub⟩
    | cons_cons _ hsub => cases hp
  · rintro ⟨p, y, hp, hsub⟩
    exact ⟨p, y, hp, hsub.cons _⟩

theorem identifier?_eq_some_iff {p : Piece} {x : String} :
    identifier? p = some x ↔ p = .identifier x := by
  cases p <;> simp [identifier?]

/-- Behind an option every identifier trails. -/
theorem trails_cons_option (ho : identifier? o = none) :
    Trails (o :: pieces) ↔ ¬ ∀ p ∈ pieces, identifier? p = none := by
  constructor
  · rintro ⟨p, y, hp, hsub⟩ hoptions
    have hy : .identifier y ∈ pieces := by
      cases hsub with
      | cons _ hsub => exact hsub.subset (by simp)
      | cons_cons _ hsub => exact hsub.subset (by simp)
    cases hoptions _ hy
  · intro h
    push Not at h
    obtain ⟨p, hp, hne⟩ := h
    obtain ⟨y, hy⟩ := Option.ne_none_iff_exists'.1 hne
    rw [identifier?_eq_some_iff] at hy
    subst hy
    exact ⟨o, y, ho, (List.singleton_sublist.2 hp).cons_cons _⟩

/-- Identifiers that do not trail stand in front of all options. -/
theorem not_trails_iff : ¬ Trails pieces ↔ ∃ (ids : List String) (after : List Piece),
    pieces = ids.map .identifier ++ after ∧ ∀ p ∈ after, identifier? p = none := by
  constructor
  · intro h
    induction pieces with
    | nil => exact ⟨[], [], rfl, by simp⟩
    | cons p pieces ih =>
      cases hp : identifier? p with
      | some x =>
        rw [identifier?_eq_some_iff] at hp
        subst hp
        rw [trails_cons_identifier] at h
        obtain ⟨ids, after, rfl, hafter⟩ := ih h
        exact ⟨x :: ids, after, rfl, hafter⟩
      | none =>
        rw [trails_cons_option hp, not_not] at h
        exact ⟨[], p :: pieces, rfl, List.forall_mem_cons.2 ⟨hp, h⟩⟩
  · rintro ⟨ids, after, rfl, hafter⟩
    induction ids with
    | nil =>
      cases after with
      | nil => exact not_trails_nil
      | cons p after =>
        rw [List.forall_mem_cons] at hafter
        rw [List.map_nil, List.nil_append, trails_cons_option hafter.1, not_not]
        exact hafter.2
    | cons x ids ih =>
      rw [List.map_cons, List.cons_append, trails_cons_identifier]
      exact ih

/-- **Identifiers that are not separated stand together**, with options in front of them and
behind. -/
theorem not_separated_iff : ¬ Separated pieces ↔
    ∃ (before : List Piece) (ids : List String) (after : List Piece),
      pieces = before ++ ids.map .identifier ++ after ∧
        (∀ p ∈ before, identifier? p = none) ∧ ∀ p ∈ after, identifier? p = none := by
  constructor
  · intro h
    induction pieces with
    | nil => exact ⟨[], [], [], rfl, by simp, by simp⟩
    | cons p pieces ih =>
      cases hp : identifier? p with
      | some x =>
        rw [identifier?_eq_some_iff] at hp
        subst hp
        rw [separated_cons_identifier, not_trails_iff] at h
        obtain ⟨ids, after, rfl, hafter⟩ := h
        exact ⟨[], x :: ids, after, rfl, by simp, hafter⟩
      | none =>
        rw [separated_cons_option hp] at h
        obtain ⟨before, ids, after, rfl, hbefore, hafter⟩ := ih h
        exact ⟨p :: before, ids, after, rfl, List.forall_mem_cons.2 ⟨hp, hbefore⟩, hafter⟩
  · rintro ⟨before, ids, after, rfl, hbefore, hafter⟩
    induction before with
    | nil =>
      have htogether : ¬ Trails (ids.map .identifier ++ after) :=
        not_trails_iff.2 ⟨ids, after, rfl, hafter⟩
      rintro ⟨x, o, y, ho, hsub⟩
      exact htogether ⟨o, y, ho, (List.sublist_cons_self _ _).trans hsub⟩
    | cons p before ih =>
      rw [List.forall_mem_cons] at hbefore
      rw [List.append_assoc, List.cons_append, separated_cons_option hbefore.1, ← List.append_assoc]
      exact ih hbefore.2

end

/-! ## Reading the pieces -/

/-- What an argument of the piece is taken for, beside the argument. -/
def Piece.tokens : Piece → List (Token × String)
  | .identifier s => [(.plain, s)]
  | .kind name => [(.option .kind "--kind" none, "--kind"), (.plain, name)]
  | .schema path => [(.option .schema "--schema" none, "--schema"), (.plain, path)]
  | .definition path =>
    [(.option .credentialDefinition "--cred-def" none, "--cred-def"), (.plain, path)]

theorem isPlain_of_mem_kinds {name : String} (h : name ∈ ["any", "uri", "legacy"]) :
    IsPlain name := by
  simp only [List.mem_cons, List.not_mem_nil, or_false] at h
  rcases h with rfl | rfl | rfl <;> simp [IsPlain]

theorem classifyAll_cons {argument : String} {token : Token}
    (h : classify argument = .ok token) (hne : token ≠ .divider) (rest : List String) :
    classifyAll (argument :: rest) = (classifyAll rest).map ((token, argument) :: ·) := by
  rw [classifyAll, h]
  cases token with
  | divider => exact absurd rfl hne
  | _ => rfl

/-- What the arguments of proper pieces are taken for. -/
theorem classifyAll_arguments {pieces : List Piece} (h : ∀ p ∈ pieces, p.Proper) :
    classifyAll (pieces.flatMap Piece.arguments) = .ok (pieces.flatMap Piece.tokens) := by
  have hplain {s : String} (hs : IsPlain s) (rest : List String) :
      classifyAll (s :: rest) = (classifyAll rest).map ((.plain, s) :: ·) :=
    classifyAll_cons (classify_plain hs) (by simp) rest
  have hoption {o : Switch} {spelling : String}
      (ho : classify spelling = .ok (.option o spelling none)) (rest : List String) :
      classifyAll (spelling :: rest) =
        (classifyAll rest).map ((.option o spelling none, spelling) :: ·) :=
    classifyAll_cons ho (by simp) rest
  induction pieces with
  | nil => rfl
  | cons p pieces ih =>
    rw [List.forall_mem_cons] at h
    obtain ⟨hp, hpieces⟩ := h
    rw [List.flatMap_cons, List.flatMap_cons]
    cases p with
    | identifier s =>
      change classifyAll (s :: pieces.flatMap arguments) = _
      rw [hplain hp, ih hpieces]
      rfl
    | kind name =>
      change classifyAll ("--kind" :: name :: pieces.flatMap arguments) = _
      rw [hoption rfl, hplain (isPlain_of_mem_kinds hp), ih hpieces]
      rfl
    | schema path =>
      change classifyAll ("--schema" :: path :: pieces.flatMap arguments) = _
      rw [hoption rfl, hplain hp, ih hpieces]
      rfl
    | definition path =>
      change classifyAll ("--cred-def" :: path :: pieces.flatMap arguments) = _
      rw [hoption rfl, hplain hp, ih hpieces]
      rfl

/-- What a piece adds to a reading. -/
def Reading.take (r : Reading) : Piece → Reading
  | .identifier s => r.value s
  | .kind name => { r.endGroup with arguments.kind := .string name }
  | .schema path => { r.endGroup with arguments.schemas := r.arguments.schemas ++ [.string path] }
  | .definition path =>
    { r.endGroup with
      arguments.credentialDefinitions := r.arguments.credentialDefinitions ++ [.string path] }

/-- **Reading proper pieces adds them one by one.** -/
theorem Reading.run_tokens {pieces : List Piece} (h : ∀ p ∈ pieces, p.Proper) (r : Reading) :
    r.run (pieces.flatMap Piece.tokens) = .ok (pieces.foldl Reading.take r) := by
  induction pieces generalizing r with
  | nil => rfl
  | cons p pieces ih =>
    rw [List.forall_mem_cons] at h
    obtain ⟨hp, hpieces⟩ := h
    rw [List.flatMap_cons, List.foldl_cons, ← ih hpieces]
    cases p with
    | identifier s => rfl
    | kind name =>
      have hset : r.set .kind name = .ok (r.take (.kind name)) := by
        have hchoice : name ∈ ["any", "uri", "legacy"] := hp
        simp only [Reading.set, Arguments.set, Switch.choices?, if_pos hchoice]
        rfl
      simp only [Piece.tokens, List.cons_append, List.nil_append, Reading.run, hset]
    | schema path => rfl
    | definition path => rfl

/-! ## What has been read -/

section

variable {o : Piece}

/-- An option ends the group of identifiers and leaves what has been read of them as it is. -/
theorem Reading.take_option (ho : identifier? o = none) (r : Reading) :
    (r.take o).group = (if r.group = .before then .before else .behind) ∧
      (r.take o).extras = r.extras ∧
      (r.take o).arguments.identifiers = r.arguments.identifiers := by
  cases o with
  | identifier s => cases ho
  | _ => exact ⟨rfl, rfl, rfl⟩

theorem Reading.take_of_behind {r : Reading} (hr : r.group = .behind) (x : String) :
    (r.take (.identifier x)).group = .behind ∧
      (r.take (.identifier x)).extras = r.extras ++ [x] ∧
      (r.take (.identifier x)).arguments.identifiers = r.arguments.identifiers := by
  unfold Reading.take Reading.value
  rw [hr]
  exact ⟨rfl, rfl, rfl⟩

theorem Reading.take_of_ne_behind {r : Reading} (hr : r.group ≠ .behind) (x : String) :
    (r.take (.identifier x)).group = .inside ∧ (r.take (.identifier x)).extras = r.extras ∧
      (r.take (.identifier x)).arguments.identifiers = r.arguments.identifiers ++ [x] := by
  unfold Reading.take Reading.value
  cases hgroup : r.group with
  | behind => exact absurd hgroup hr
  | before | inside => exact ⟨rfl, rfl, rfl⟩

/-- Behind the group of identifiers, every further one is left over. -/
theorem extras_of_behind {r : Reading} (hr : r.group = .behind) (pieces : List Piece) :
    (pieces.foldl Reading.take r).extras = r.extras ++ pieces.filterMap identifier? := by
  induction pieces generalizing r with
  | nil => exact (List.append_nil _).symm
  | cons p pieces ih =>
    rw [List.foldl_cons, List.filterMap_cons]
    cases hp : identifier? p with
    | some x =>
      rw [identifier?_eq_some_iff] at hp
      subst hp
      obtain ⟨hgroup, hextras, -⟩ := Reading.take_of_behind hr x
      rw [ih hgroup, hextras, List.append_assoc]
      rfl
    | none =>
      obtain ⟨hgroup, hextras, -⟩ := Reading.take_option hp r
      rw [hr] at hgroup
      rw [ih hgroup, hextras]

/-- Within the group, those are left over that trail. -/
theorem extras_of_inside {r : Reading} (hr : r.group = .inside) (hnone : r.extras = [])
    (pieces : List Piece) :
    (pieces.foldl Reading.take r).extras = [] ↔ ¬ Trails pieces := by
  induction pieces generalizing r with
  | nil => exact iff_of_true hnone not_trails_nil
  | cons p pieces ih =>
    rw [List.foldl_cons]
    cases hp : identifier? p with
    | some x =>
      rw [identifier?_eq_some_iff] at hp
      subst hp
      obtain ⟨hgroup, hextras, -⟩ := r.take_of_ne_behind (by simp [hr]) x
      rw [ih hgroup (hextras.trans hnone), trails_cons_identifier]
    | none =>
      obtain ⟨hgroup, hextras, -⟩ := Reading.take_option hp r
      rw [hr] at hgroup
      rw [extras_of_behind hgroup, hextras, hnone, List.nil_append, trails_cons_option hp, not_not,
        List.filterMap_eq_nil_iff]

/-- **Nothing is left over just if the identifiers are not separated.** -/
theorem extras_eq_nil_iff {r : Reading} (hr : r.group = .before) (hnone : r.extras = [])
    (pieces : List Piece) :
    (pieces.foldl Reading.take r).extras = [] ↔ ¬ Separated pieces := by
  induction pieces generalizing r with
  | nil => exact iff_of_true hnone not_separated_nil
  | cons p pieces ih =>
    rw [List.foldl_cons]
    cases hp : identifier? p with
    | some x =>
      rw [identifier?_eq_some_iff] at hp
      subst hp
      obtain ⟨hgroup, hextras, -⟩ := r.take_of_ne_behind (by simp [hr]) x
      rw [extras_of_inside hgroup (hextras.trans hnone), separated_cons_identifier]
    | none =>
      obtain ⟨hgroup, hextras, -⟩ := Reading.take_option hp r
      rw [hr] at hgroup
      rw [ih hgroup (hextras.trans hnone), separated_cons_option hp]

/-- **Each identifier is either accepted or left over**, and none that is accepted stands behind one
that is left over. -/
theorem identifiers_append_extras {r : Reading} (hr : r.extras = [] ∨ r.group = .behind)
    (pieces : List Piece) :
    (pieces.foldl Reading.take r).arguments.identifiers ++ (pieces.foldl Reading.take r).extras =
      r.arguments.identifiers ++ r.extras ++ pieces.filterMap identifier? := by
  induction pieces generalizing r with
  | nil => exact (List.append_nil _).symm
  | cons p pieces ih =>
    rw [List.foldl_cons, List.filterMap_cons]
    cases hp : identifier? p with
    | some x =>
      rw [identifier?_eq_some_iff] at hp
      subst hp
      by_cases hbehind : r.group = .behind
      · obtain ⟨hgroup, hextras, hids⟩ := r.take_of_behind hbehind x
        rw [ih (.inr hgroup), hextras, hids]
        simp only [List.append_assoc, List.singleton_append]
      · obtain ⟨-, hextras, hids⟩ := r.take_of_ne_behind hbehind x
        have hnone := hr.resolve_right hbehind
        rw [ih (.inl (hextras.trans hnone)), hextras, hids, hnone]
        simp only [List.append_nil, List.append_assoc, List.singleton_append]
    | none =>
      obtain ⟨hgroup, hextras, hids⟩ := Reading.take_option hp r
      have hstill : (r.take p).extras = [] ∨ (r.take p).group = .behind := by
        rcases hr with hnone | hbehind
        · exact .inl (hextras.trans hnone)
        · rw [hbehind] at hgroup
          exact .inr hgroup
      rw [ih hstill, hextras, hids]

end

/-- The options take effect in their order: files are collected, and the kind given last counts. -/
theorem arguments_foldl_take (r : Reading) (pieces : List Piece) :
    (pieces.foldl Reading.take r).arguments =
      { r.arguments with
        identifiers := (pieces.foldl Reading.take r).arguments.identifiers
        kind := ((pieces.filterMap kind?).getLast?.map .string).getD r.arguments.kind
        schemas := r.arguments.schemas ++ (pieces.filterMap schema?).map .string
        credentialDefinitions :=
          r.arguments.credentialDefinitions ++ (pieces.filterMap definition?).map .string } := by
  induction pieces generalizing r with
  | nil => simp
  | cons p pieces ih =>
    rw [List.foldl_cons, ih]
    cases p with
    | identifier x =>
      unfold Reading.take Reading.value
      cases r.group <;> rfl
    | kind name =>
      simp only [Reading.take, Reading.endGroup, kind?, schema?, definition?, List.filterMap_cons,
        List.getLast?_cons]
      cases (pieces.filterMap kind?).getLast? <;> rfl
    | schema path =>
      simp only [Reading.take, Reading.endGroup, kind?, schema?, definition?, List.filterMap_cons,
        List.map_cons, List.append_assoc, List.singleton_append]
    | definition path =>
      simp only [Reading.take, Reading.endGroup, kind?, schema?, definition?, List.filterMap_cons,
        List.map_cons, List.append_assoc, List.singleton_append]

/-! ## The command line -/

/-- The piece is something to check. -/
def Piece.IsItem (p : Piece) : Prop := kind? p = none

theorem isEmpty_askedFor (settings : Settings) (pieces : List Piece) :
    (askedFor settings pieces).isEmpty = true ↔ ∀ p ∈ pieces, ¬ p.IsItem := by
  simp only [Arguments.isEmpty, askedFor, Bool.and_eq_true, List.isEmpty_iff, List.map_eq_nil_iff,
    List.filterMap_eq_nil_iff, ← forall₂_and]
  refine forall₂_congr fun p _ => ?_
  cases p <;> simp [identifier?, schema?, definition?, IsItem, kind?]

/-- The reading in front of all pieces. -/
def Reading.start (settings : Settings) : Reading := ⟨.initial settings, .before, []⟩

section

variable {settings : Settings} {pieces : List Piece}

/-- If nothing is left over, what has been read is all that the pieces ask for. -/
theorem arguments_eq_askedFor
    (hextras : (pieces.foldl Reading.take (.start settings)).extras = []) :
    (pieces.foldl Reading.take (.start settings)).arguments = askedFor settings pieces := by
  have hids := identifiers_append_extras (r := .start settings) (.inl rfl) pieces
  rw [hextras, List.append_nil] at hids
  rw [arguments_foldl_take, hids]
  unfold askedFor
  cases (pieces.filterMap kind?).getLast? <;> rfl

/-- The divider is no identifier of proper pieces. -/
theorem erase_identifiers (h : ∀ p ∈ pieces, p.Proper) :
    (pieces.filterMap identifier?).erase "--" = pieces.filterMap identifier? := by
  refine List.erase_of_not_mem fun hmem => ?_
  obtain ⟨p, hp, hdivider⟩ := List.mem_filterMap.1 hmem
  rw [identifier?_eq_some_iff] at hdivider
  subst hdivider
  exact h _ hp rfl

theorem parse_pieces (hpieces : ∀ p ∈ pieces, p.Proper) :
    parse settings (pieces.flatMap Piece.arguments) =
      let r := pieces.foldl Reading.take (.start settings)
      let a := { r.arguments with identifiers := r.arguments.identifiers.erase "--" }
      if !r.extras.isEmpty then .error (.refused (.unrecognized r.extras))
      else if a.isEmpty then .error (.refused .nothingToValidate)
      else .ok a := by
  have hrun := Reading.run_tokens hpieces (.start settings)
  rw [Reading.start] at hrun
  unfold parse
  rw [classifyAll_arguments hpieces]
  dsimp only
  rw [hrun]
  rfl

/-- **Pieces whose identifiers are separated are refused.** -/
theorem parse_of_separated (hpieces : ∀ p ∈ pieces, p.Proper) (h : Separated pieces) :
    ∃ r, parse settings (pieces.flatMap Piece.arguments) = .error (.refused r) := by
  have hextras : (pieces.foldl Reading.take (.start settings)).extras ≠ [] := fun hnone =>
    (extras_eq_nil_iff (r := .start settings) rfl rfl pieces).1 hnone h
  refine ⟨.unrecognized (pieces.foldl Reading.take (.start settings)).extras, ?_⟩
  rw [parse_pieces hpieces]
  exact if_pos (by simpa using hextras)

/-- **Pieces whose identifiers stand together are read as what they ask for**, if that is
anything. -/
theorem parse_of_not_separated (hpieces : ∀ p ∈ pieces, p.Proper) (h : ¬ Separated pieces) :
    parse settings (pieces.flatMap Piece.arguments) =
      if (askedFor settings pieces).isEmpty then .error (.refused .nothingToValidate)
      else .ok (askedFor settings pieces) := by
  have hextras := (extras_eq_nil_iff (r := .start settings) rfl rfl pieces).2 h
  have hids : { askedFor settings pieces with
      identifiers := (askedFor settings pieces).identifiers.erase "--" } =
        askedFor settings pieces := by
    change { askedFor settings pieces with
      identifiers := (pieces.filterMap identifier?).erase "--" } = _
    rw [erase_identifiers hpieces]
    rfl
  rw [parse_pieces hpieces]
  dsimp only
  rw [hextras, arguments_eq_askedFor hextras, hids]
  rfl

end

/-! ## Runs -/

section

variable {pieces : List Piece}

/-- Pieces that ask for the same come to the same. -/
theorem run_eq_of_askedFor_eq {settings : Settings} {others : List Piece}
    (hpieces : ∀ p ∈ pieces, p.Proper) (hothers : ∀ p ∈ others, p.Proper)
    (h : ¬ Separated pieces) (h' : ¬ Separated others)
    (hasked : askedFor settings others = askedFor settings pieces) :
    run settings (others.flatMap Piece.arguments) =
      run settings (pieces.flatMap Piece.arguments) := by
  have hparse : parse settings (others.flatMap Piece.arguments) =
      parse settings (pieces.flatMap Piece.arguments) := by
    rw [parse_of_not_separated hpieces h, parse_of_not_separated hothers h', hasked]
  unfold run
  rw [hparse]

theorem parse_of_isItem {settings : Settings} (hpieces : ∀ p ∈ pieces, p.Proper)
    (h : ¬ Separated pieces) (hitem : ∃ p ∈ pieces, p.IsItem) :
    parse settings (pieces.flatMap Piece.arguments) = .ok (askedFor settings pieces) := by
  obtain ⟨p, hp, hitem⟩ := hitem
  rw [parse_of_not_separated hpieces h,
    if_neg fun hempty => (isEmpty_askedFor settings pieces).1 hempty p hp hitem]

theorem parse_of_not_isItem {settings : Settings} (hpieces : ∀ p ∈ pieces, p.Proper)
    (hitem : ∀ p ∈ pieces, ¬ p.IsItem) :
    ∃ r, parse settings (pieces.flatMap Piece.arguments) = .error (.refused r) := by
  by_cases h : Separated pieces
  · exact parse_of_separated hpieces h
  · rw [parse_of_not_separated hpieces h, if_pos ((isEmpty_askedFor settings pieces).2 hitem)]
    exact ⟨_, rfl⟩

/-- **Nothing of a command line gets lost.** Pieces whose identifiers are not separated are options,
all the identifiers, and options. If they hold anything to check, the run checks all the
identifiers, then the schemas, then the credential definitions, each sort in its order, under the
kind given last; other pieces of this sort with the same identifiers, schemas, definitions and last
kind come to the same run. Once the log is opened there is one report on each item, and where the
documents are apart from the log, it is the line that the tree of files has for the item. If the
identifiers are separated, or if there is nothing to check, the run ends with the status 2, and all
that it does is to write on the error stream, the same text whatever there is in the world. -/
theorem pieces_run (env : List (String × String)) (hpieces : ∀ p ∈ pieces, p.Proper) :
    (¬ Separated pieces ↔ ∃ (before : List Piece) (ids : List String) (after : List Piece),
      pieces = before ++ ids.map .identifier ++ after ∧
        (∀ p ∈ before, identifier? p = none) ∧ ∀ p ∈ after, identifier? p = none) ∧
    let settings := Settings.ofEnvironment env
    let argv := pieces.flatMap Piece.arguments
    let ids := pieces.filterMap identifier?
    let schemas := pieces.filterMap schema?
    let definitions := pieces.filterMap definition?
    let kind := (pieces.filterMap kind?).getLast?.getD "any"
    let items := ids.map .identifier ++ schemas.map (.document .schema <| .string ·) ++
      definitions.map (.document .credentialDefinition <| .string ·)
    (¬ Separated pieces → (∃ p ∈ pieces, p.IsItem) →
      run settings argv = execute (askedFor settings pieces) ∧
      (askedFor settings pieces).items = items ∧
      (askedFor settings pieces).kind = .string kind ∧
      (∀ others : List Piece, (∀ p ∈ others, p.Proper) → ¬ Separated others →
        others.filterMap identifier? = ids → others.filterMap schema? = schemas →
        others.filterMap definition? = definitions →
        (others.filterMap kind?).getLast?.getD "any" = kind →
        run settings (others.flatMap Piece.arguments) = run settings argv) ∧
      ∀ {files opened : FileSystem} {place? : Option Path},
        openLog? files (askedFor settings pieces).logFile = some (place?, opened) →
        ∀ stamp : String, (∀ path ∈ schemas ++ definitions, '\x00' ∉ path.toList) →
        (∃ reports w,
          List.Forall₂ (Item.Shows (.string kind)) items reports ∧
          (run settings argv).run (.fresh files stamp) =
            (.status (if reports.countP (!·.valid) = 0 then 0 else 1), w) ∧
          w.console.prints .output = reports.map (·.line ++ "\n")) ∧
        ((askedFor settings pieces).DocumentsApart opened place? stamp → ∃ w,
          (run settings argv).run (.fresh files stamp) =
            (.status (if items.countP (·.isFaulty opened (.string kind)) = 0 then 0 else 1), w) ∧
          w.console.prints .output =
            (ids.map (identifierLine (.string kind)) ++ schemas.map (documentLine opened .schema) ++
              definitions.map (documentLine opened .credentialDefinition)).map (· ++ "\n"))) ∧
    (Separated pieces ∨ (∀ p ∈ pieces, ¬ p.IsItem) →
      ∃ text, ∀ w : World, (run settings argv).run w =
        (.status 2, { w with console := w.console.write .error text })) := by
  have hitems (settings : Settings) := items_eq (a := askedFor settings pieces) rfl rfl
  refine ⟨not_separated_iff, fun h hitem => ?_, fun h => ?_⟩
  · have hparse : parse (.ofEnvironment env) (pieces.flatMap Piece.arguments) =
        .ok (askedFor (.ofEnvironment env) pieces) :=
      parse_of_isItem hpieces h hitem
    refine ⟨run_of_accepted hparse, hitems _, rfl, ?_, ?_⟩
    · intro others hothers h' hids hschemas hdefinitions hkind
      refine run_eq_of_askedFor_eq hpieces hothers h h' ?_
      rw [askedFor, hids, hschemas, hdefinitions, hkind]
      rfl
    · intro files opened place? hlog stamp hnull
      have hchecked (path : String)
          (hpath : .string path ∈ (askedFor (.ofEnvironment env) pieces).schemas ++
            (askedFor (.ofEnvironment env) pieces).credentialDefinitions) :
          '\x00' ∉ path.toList := by
        rw [askedFor, ← List.map_append] at hpath
        obtain ⟨_, hmem, heq⟩ := List.mem_map.1 hpath
        cases heq
        exact hnull path hmem
      have hnullFree := nullFree_of_paths hparse hchecked
      refine ⟨?_, fun hapart => ?_⟩
      · have hreports := run_reports hparse hnullFree hlog stamp
        rw [hitems] at hreports
        exact hreports
      · obtain ⟨w, hrun, houtput, -⟩ := run_lines hparse hlog hnullFree hapart
        rw [hitems] at hrun
        rw [map_line_items rfl rfl] at houtput
        exact ⟨w, hrun, houtput⟩
  · have hrefused : ∃ r, parse (.ofEnvironment env) (pieces.flatMap Piece.arguments) =
        .error (.refused r) :=
      h.elim (parse_of_separated hpieces) (parse_of_not_isItem hpieces)
    obtain ⟨r, hparse⟩ := hrefused
    exact run_of_refused hparse

end

/-- Options on both sides of the identifiers, the kind given twice. -/
def mixedPieces : List Piece :=
  [.kind "legacy", .schema "/none", .identifier "did:x:y", .identifier "nope", .kind "any"]

/-- The identifiers of the mixed pieces are both checked, under the later kind; with an option
between them, neither is. -/
theorem pieces_run_mixed :
    (∃ w, (run (.ofEnvironment []) (mixedPieces.flatMap Piece.arguments)).run
        (.fresh (.usual []) "") = (.status 1, w) ∧
      w.console.prints .output = ["did:x:y: uri\n", "nope: invalid\n",
        "/none: invalid (Cannot read /none: [Errno 2] No such file or directory: '/none')\n"]) ∧
    ∃ text, ∀ w : World,
      (run (.ofEnvironment []) ["did:x:y", "--kind", "any", "nope"]).run w =
        (.status 2, { w with console := w.console.write .error text }) := by
  constructor
  · have hproper : ∀ p ∈ mixedPieces, p.Proper := by
      simp [mixedPieces, Piece.Proper, IsPlain]
    have htogether : ¬ Separated mixedPieces :=
      (pieces_run [] hproper).1.2 ⟨[.kind "legacy", .schema "/none"], ["did:x:y", "nope"],
        [.kind "any"], rfl, by simp [identifier?], by simp [identifier?]⟩
    have hitem : ∃ p ∈ mixedPieces, p.IsItem := ⟨.schema "/none", by simp [mixedPieces], rfl⟩
    have hnull : ∀ path ∈ ["/none"] ++ [], '\x00' ∉ path.toList := by
      intro path hpath
      cases List.mem_singleton.1 hpath
      decide
    obtain ⟨-, -, -, -, hlines⟩ := (pieces_run [] hproper).2.1 htogether hitem
    have hlog : openLog? (.usual []) (askedFor (.ofEnvironment []) mixedPieces).logFile =
        some (none, .usual []) := rfl
    obtain ⟨w, hrun, houtput⟩ :=
      (hlines hlog "" hnull).2 (Arguments.documentsApart_none _ _ "")
    have hprinted : (["did:x:y", "nope"].map (identifierLine (.string "any")) ++
          ["/none"].map (documentLine (.usual []) .schema) ++
          [].map (documentLine (.usual []) .credentialDefinition)).map (· ++ "\n") =
        ["did:x:y: uri\n", "nope: invalid\n",
          "/none: invalid (Cannot read /none: [Errno 2] No such file or directory: '/none')\n"] := by
      decide +kernel
    have hfaulty : [Item.identifier "did:x:y", .identifier "nope",
        .document .schema (.string "/none")].countP (·.isFaulty (.usual []) (.string "any")) =
          2 := by
      decide +kernel
    change _ = (Exit.status (if [Item.identifier "did:x:y", .identifier "nope",
      .document .schema (.string "/none")].countP (·.isFaulty (.usual []) (.string "any")) = 0
        then 0 else 1), w) at hrun
    rw [hfaulty] at hrun
    exact ⟨w, hrun, houtput.trans hprinted⟩
  · have hproper : ∀ p ∈ [Piece.identifier "did:x:y", .kind "any", .identifier "nope"],
        p.Proper := by
      simp [Piece.Proper, IsPlain]
    exact (pieces_run [] hproper).2.2
      (.inl ⟨"did:x:y", .kind "any", "nope", rfl, List.Sublist.refl _⟩)

end CredentialCheck.CommandLine
