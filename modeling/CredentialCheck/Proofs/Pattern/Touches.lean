import CredentialCheck.Proofs.Pattern.Shared
import CredentialCheck.Proofs.Pattern.Turns

/-!
# Cells over a whole run

A step touches a cell if it needs the cell's pattern. What a cell holds depends on two things only:
whether its expression can be compiled, and whether it has been touched since it was made. A
`Ledger` keeps account of these for each name, by the steps alone, and foretells what the cells
report and announce.

* `Step.touched` are the cells that a step touches.
* `Ledger.after` is the ledger after a step, `Ledger.announcements` what the step announces.
* `Tracks` relates a store and a ledger; a step keeps it (`Tracks.step`).
* `cells_run` is the statement about whole runs.
-/

namespace CredentialCheck.Pattern

/-! ## Touches -/

/-- The names of the cells of which a step needs the pattern, in the order in which it needs them.
The second shared cell is needed for texts that are not URI identifiers. -/
def Step.touched : Step → List String
  | .get name => [name]
  | .fullmatch name _ => [name]
  | .getAtOnce name threads => if threads = 0 then [] else [name]
  | .isUri (.string _) => ["URI"]
  | .isLegacy (.string _) => ["LEGACY"]
  | .isIdentifier (.string t) =>
    if Identifier.isUri (.string t) then ["URI"] else ["URI", "LEGACY"]
  | _ => []

/-- What is known of a cell without a look at it. -/
structure Entry where
  expression : Value
  flags : Flags
  /-- The cell has been touched since it was made. -/
  isTouched : Bool

/-- Whether the expression can be compiled. -/
def Entry.isWellFormed (e : Entry) : Bool := (compile e.expression e.flags).toOption.isSome

/-- What the next touch of the cell announces. -/
def Entry.announcements (e : Entry) : List String :=
  if e.isWellFormed && !e.isTouched then [announcement e.expression] else []

/-- The cell that the entry describes. -/
def Entry.cell (e : Entry) : Cell :=
  ⟨e.expression, e.flags, if e.isTouched then (compile e.expression e.flags).toOption else none⟩

/-- The entry after a touch. -/
def Entry.touch (e : Entry) : Entry := { e with isTouched := true }

/-- The cells known by name. -/
abbrev Ledger := String → Option Entry

namespace Ledger

/-- The two shared cells, which nobody has touched. -/
def fresh : Ledger := fun name =>
  if name = "URI" then some ⟨.string uriExpression, uriFlags, false⟩
  else if name = "LEGACY" then some ⟨.string legacyExpression, .none, false⟩
  else none

/-- The ledger after a touch of the cell of a name. -/
def touch (l : Ledger) (name : String) : Ledger := fun n =>
  if n = name then (l n).map Entry.touch else l n

/-- The ledger after a new cell has been made under a name. -/
def make (l : Ledger) (name : String) (e : Entry) : Ledger := fun n =>
  if n = name then some e else l n

/-- The ledger after a step. -/
def after (l : Ledger) : Step → Ledger
  | .make name expression flags => l.make name ⟨expression, flags, false⟩
  | step => step.touched.foldl touch l

/-- What a step announces: the patterns of the cells that it touches first. -/
def announcements (l : Ledger) (step : Step) : List String :=
  step.touched.flatMap fun name => ((l name).map Entry.announcements).getD []

/-- What steps announce one after the other. -/
def announced (l : Ledger) : List Step → List (List String)
  | [] => []
  | step :: steps => l.announcements step :: (l.after step).announced steps

end Ledger

/-! ## A use of a cell -/

/-- A use of a cell is a touch: it gets what compiling comes to. -/
theorem Entry.get_cell (e : Entry) :
    e.cell.get = (compile e.expression e.flags, e.touch.cell, e.announcements) := by
  obtain ⟨expression, flags, isTouched⟩ := e
  cases hcompile : compile expression flags with
  | error f =>
    cases isTouched <;> simp [Entry.cell, Entry.touch, Entry.announcements, Entry.isWellFormed,
      Cell.get, hcompile, Except.toOption]
  | ok p =>
    cases isTouched <;> simp [Entry.cell, Entry.touch, Entry.announcements, Entry.isWellFormed,
      Cell.get, hcompile, Except.toOption]

theorem Cell.fullmatch_eq (c : Cell) (v : Value) :
    c.fullmatch v = (c.get.1.bind (·.fullmatch v), c.get.2) := by
  unfold Cell.fullmatch
  generalize c.get = used
  obtain ⟨result, cell, log⟩ := used
  cases result <;> rfl

/-! ## Stores -/

section

variable {name n : String} {cell : Cell}

theorem find?_putNamed (name : String) (cell : Cell) (es : List (String × Cell)) (n : String) :
    (Store.putNamed name cell es).find? (·.1 == n) =
      if n = name then some (name, cell) else es.find? (·.1 == n) := by
  induction es with
  | nil =>
    by_cases h : n = name
    · simp [Store.putNamed, h]
    · simp [Store.putNamed, h, Ne.symm h]
  | cons e es ih =>
    rw [Store.putNamed]
    by_cases he : e.1 = name
    · by_cases h : n = name
      · simp [he, h]
      · simp [he, h, Ne.symm h]
    · rw [if_neg (by simpa using he), List.find?_cons, List.find?_cons, ih]
      by_cases h : n = name
      · simp [h, beq_eq_false_iff_ne.2 he]
      · simp [h]

theorem mem_putNamed {es : List (String × Cell)} {e : String × Cell}
    (h : e ∈ Store.putNamed name cell es) : e.1 = name ∨ e ∈ es := by
  induction es with
  | nil => exact .inl (congrArg Prod.fst (List.mem_singleton.1 h))
  | cons d es ih =>
    rw [Store.putNamed] at h
    split at h
    · rcases List.mem_cons.1 h with rfl | h
      · exact .inl rfl
      · exact .inr (List.mem_cons_of_mem d h)
    · rcases List.mem_cons.1 h with rfl | h
      · exact .inr List.mem_cons_self
      · exact (ih h).imp_right (List.mem_cons_of_mem d)

theorem Store.find?_make (s : Store) (name : String) (cell : Cell) (n : String) :
    (s.make name cell).find? n = if n = name then some cell else s.find? n := by
  unfold Store.find? Store.make
  rw [find?_putNamed]
  by_cases h : n = name
  · simp [h]
  · simp [h]

/-- No cell has been made under the name of a shared one. -/
def Store.Apart (s : Store) : Prop := ∀ e ∈ s.named, e.1 ≠ "URI" ∧ e.1 ≠ "LEGACY"

theorem Store.Apart.any_eq_false {s : Store} (h : s.Apart) {shared : String}
    (hshared : shared = "URI" ∨ shared = "LEGACY") : s.named.any (·.1 == shared) = false := by
  rw [List.any_eq_false]
  intro e he heq
  obtain ⟨huri, hlegacy⟩ := h e he
  rcases hshared with rfl | rfl
  · exact huri (beq_iff_eq.1 heq)
  · exact hlegacy (beq_iff_eq.1 heq)

theorem Store.Apart.find?_named {s : Store} (h : s.Apart) {shared : String}
    (hshared : shared = "URI" ∨ shared = "LEGACY") : s.named.find? (·.1 == shared) = none :=
  List.find?_eq_none.2 (List.any_eq_false.1 (h.any_eq_false hshared))

theorem Store.Apart.find?_uri {s : Store} (h : s.Apart) : s.find? "URI" = some s.shared.uri := by
  simp [Store.find?, h.find?_named (.inl rfl)]

theorem Store.Apart.find?_legacy {s : Store} (h : s.Apart) :
    s.find? "LEGACY" = some s.shared.legacy := by
  simp [Store.find?, h.find?_named (.inr rfl)]

theorem Store.Apart.make {s : Store} (h : s.Apart) (hname : name ≠ "URI" ∧ name ≠ "LEGACY")
    (cell : Cell) : (s.make name cell).Apart := by
  intro e he
  rcases mem_putNamed he with heq | he
  · rwa [heq]
  · exact h e he

/-- A use of one cell leaves the others alone. -/
theorem Store.Apart.update {s : Store} (h : s.Apart) (hfind : (s.find? name).isSome = true)
    (cell : Cell) :
    (s.update name cell).Apart ∧
      ∀ n, (s.update name cell).find? n = if n = name then some cell else s.find? n := by
  unfold Store.update
  by_cases hany : s.named.any (·.1 == name) = true
  · rw [if_pos hany]
    obtain ⟨e, he, heq⟩ := List.any_eq_true.1 hany
    exact ⟨h.make (beq_iff_eq.1 heq ▸ h e he) cell, s.find?_make name cell⟩
  rw [if_neg hany]
  have hnone : s.named.find? (·.1 == name) = none :=
    List.find?_eq_none.2 fun e he heq => hany (List.any_eq_true.2 ⟨e, he, heq⟩)
  by_cases huri : name = "URI"
  · subst huri
    refine ⟨h, fun n => ?_⟩
    by_cases hn : n = "URI"
    · subst hn
      simp only [Store.find?, hnone, if_true]
    · simp only [Store.find?, hn, if_true, if_false]
  by_cases hlegacy : name = "LEGACY"
  · subst hlegacy
    refine ⟨h, fun n => ?_⟩
    by_cases hn : n = "LEGACY"
    · subst hn
      simp only [Store.find?, hnone, if_true, huri, if_false]
    · simp only [Store.find?, hn, if_true, huri, if_false]
  · simp only [Store.find?, hnone, huri, hlegacy, if_false, Option.isSome_none,
      Bool.false_eq_true] at hfind

end

/-! ## Store and ledger -/

/-- The cells of the store are those that the ledger knows, and the shared ones are still those of
the two forms of identifiers. -/
structure Tracks (s : Store) (l : Ledger) : Prop where
  apart : s.Apart
  find? : ∀ name, s.find? name = (l name).map Entry.cell
  uri : ∃ touched, l "URI" = some ⟨.string uriExpression, uriFlags, touched⟩
  legacy : ∃ touched, l "LEGACY" = some ⟨.string legacyExpression, .none, touched⟩

theorem tracks_fresh : Tracks .fresh .fresh := by
  refine ⟨fun _ h => absurd h List.not_mem_nil, fun name => ?_, ⟨false, rfl⟩, ⟨false, rfl⟩⟩
  simp only [Store.find?, Store.fresh, Ledger.fresh, List.find?_nil]
  split
  · rfl
  split <;> rfl

variable {s : Store} {l : Ledger} {name : String} {e : Entry}

theorem touch_apply_of_ne {n : String} (h : n ≠ name) : l.touch name n = l n := if_neg h

/-- A touch of a cell that is not there. -/
theorem touch_eq_self (h : l name = none) : l.touch name = l := by
  funext n
  by_cases hn : n = name
  · simp [Ledger.touch, hn, h]
  · exact touch_apply_of_ne hn

theorem exists_touch {expression : Value} {flags : Flags} {shared : String}
    (h : ∃ touched, l shared = some ⟨expression, flags, touched⟩) (name : String) :
    ∃ touched, l.touch name shared = some ⟨expression, flags, touched⟩ := by
  obtain ⟨touched, h⟩ := h
  by_cases hname : shared = name
  · exact ⟨true, by simp [Ledger.touch, ← hname, h, Entry.touch]⟩
  · exact ⟨touched, by rw [touch_apply_of_ne hname, h]⟩

theorem Tracks.isSome (h : Tracks s l) (he : l name = some e) :
    (s.find? name).isSome = true := by
  rw [h.find?, he]
  rfl

theorem Tracks.touch (h : Tracks s l) (he : l name = some e) :
    Tracks (s.update name e.touch.cell) (l.touch name) := by
  obtain ⟨hapart, hfind⟩ := h.apart.update (h.isSome he) e.touch.cell
  refine ⟨hapart, fun n => ?_, exists_touch h.uri name, exists_touch h.legacy name⟩
  rw [hfind, h.find?]
  by_cases hn : n = name
  · simp [Ledger.touch, hn, he]
  · rw [if_neg hn, touch_apply_of_ne hn]

/-- A look at a cell. -/
theorem Tracks.look (h : Tracks s l) (he : l name = some e) :
    Tracks (s.update name e.cell) l := by
  obtain ⟨hapart, hfind⟩ := h.apart.update (h.isSome he) e.cell
  refine ⟨hapart, fun n => ?_, h.uri, h.legacy⟩
  rw [hfind, h.find?]
  by_cases hn : n = name
  · simp [hn, he]
  · rw [if_neg hn]

theorem Tracks.make (h : Tracks s l) (hname : name ≠ "URI" ∧ name ≠ "LEGACY") (expression : Value)
    (flags : Flags) :
    Tracks (s.make name (.fresh expression flags)) (l.make name ⟨expression, flags, false⟩) := by
  refine ⟨h.apart.make hname _, fun n => ?_, ?_, ?_⟩
  · rw [s.find?_make, h.find?, Ledger.make]
    split <;> rfl
  · rw [Ledger.make, if_neg hname.1.symm]
    exact h.uri
  · rw [Ledger.make, if_neg hname.2.symm]
    exact h.legacy

/-! ## Steps -/

/-- What a step comes to that is about one cell. -/
theorem Tracks.onCell (h : Tracks s l) (name : String)
    (use : Cell → Except Failure Answer × Cell × List String) :
    s.onCell name use = match l name with
      | none => (.error (.noSuchCell name), s, [])
      | some e => ((use e.cell).1.mapError .pattern, s.update name (use e.cell).2.1,
        (use e.cell).2.2) := by
  unfold Store.onCell
  rw [h.find?]
  cases l name <;> rfl

/-- A step that only looks at a cell. -/
theorem Tracks.onCell_look (h : Tracks s l) (name : String)
    {use : Cell → Except Failure Answer × Cell × List String} (huse : ∀ c, (use c).2 = (c, [])) :
    Tracks (s.onCell name use).2.1 l ∧ (s.onCell name use).2.2 = [] := by
  rw [h.onCell]
  cases he : l name with
  | none => exact ⟨h, rfl⟩
  | some e =>
    simp only [huse]
    exact ⟨h.look he, trivial⟩

/-- A step that needs the pattern of a cell. -/
theorem Tracks.onCell_touch (h : Tracks s l) (name : String)
    {use : Cell → Except Failure Answer × Cell × List String} (huse : ∀ c, (use c).2 = c.get.2) :
    Tracks (s.onCell name use).2.1 (l.touch name) ∧
      (s.onCell name use).2.2 = ((l name).map Entry.announcements).getD [] := by
  rw [h.onCell]
  cases he : l name with
  | none =>
    rw [touch_eq_self he]
    exact ⟨h, rfl⟩
  | some e =>
    simp only [huse, e.get_cell]
    exact ⟨h.touch he, rfl⟩

/-- A cell whose pattern, if it is there, is that of its expression. -/
theorem Entry.cell_for (expression : String) (flags : Flags) (touched : Bool) :
    (Entry.cell ⟨.string expression, flags, touched⟩).For expression flags := by
  refine ⟨rfl, rfl, fun p hp => ?_⟩
  cases touched with
  | false => cases hp
  | true =>
    cases hcompile : compile (.string expression) flags with
    | error f => simp [Entry.cell, hcompile, Except.toOption] at hp
    | ok q =>
      simp [Entry.cell, hcompile, Except.toOption] at hp
      rw [hp]

theorem Tracks.uri_cell (h : Tracks s l) {touched : Bool}
    (he : l "URI" = some ⟨.string uriExpression, uriFlags, touched⟩) :
    s.shared.uri = Entry.cell ⟨.string uriExpression, uriFlags, touched⟩ := by
  have hfind := h.find? "URI"
  rw [h.apart.find?_uri, he] at hfind
  exact Option.some.inj hfind

theorem Tracks.legacy_cell (h : Tracks s l) {touched : Bool}
    (he : l "LEGACY" = some ⟨.string legacyExpression, .none, touched⟩) :
    s.shared.legacy = Entry.cell ⟨.string legacyExpression, .none, touched⟩ := by
  have hfind := h.find? "LEGACY"
  rw [h.apart.find?_legacy, he] at hfind
  exact Option.some.inj hfind

theorem Tracks.sound (h : Tracks s l) : s.shared.Sound := by
  obtain ⟨t, huri⟩ := h.uri
  obtain ⟨u, hlegacy⟩ := h.legacy
  refine ⟨?_, ?_⟩
  · rw [h.uri_cell huri]
    exact Entry.cell_for _ _ _
  · rw [h.legacy_cell hlegacy]
    exact Entry.cell_for _ _ _

/-- The store with a shared cell in use is the store after a use of the cell under its name. -/
theorem Store.Apart.update_uri (h : s.Apart) (cell : Cell) :
    s.update "URI" cell = { s with shared.uri := cell } := by
  rw [Store.update, if_neg (by simp [h.any_eq_false (.inl rfl)]), if_pos rfl]

theorem Store.Apart.update_legacy (h : s.Apart) (cell : Cell) :
    s.update "LEGACY" cell = { s with shared.legacy := cell } := by
  rw [Store.update, if_neg (by simp [h.any_eq_false (.inr rfl)]), if_neg (by decide), if_pos rfl]

theorem Tracks.isUri (h : Tracks s l) (t : String) :
    Tracks { s with shared := (s.shared.isUri (.string t)).2.1 } (l.touch "URI") ∧
      (s.shared.isUri (.string t)).2.2 = ((l "URI").map Entry.announcements).getD [] := by
  obtain ⟨touched, he⟩ := h.uri
  have htouch := h.touch he
  rw [h.apart.update_uri] at htouch
  simp only [Shared.isUri, Cell.fullmatch_eq, h.uri_cell he, Entry.get_cell, he]
  exact ⟨htouch, rfl⟩

theorem Tracks.isLegacy (h : Tracks s l) (t : String) :
    Tracks { s with shared := (s.shared.isLegacy (.string t)).2.1 } (l.touch "LEGACY") ∧
      (s.shared.isLegacy (.string t)).2.2 = ((l "LEGACY").map Entry.announcements).getD [] := by
  obtain ⟨touched, he⟩ := h.legacy
  have htouch := h.touch he
  rw [h.apart.update_legacy] at htouch
  simp only [Shared.isLegacy, Cell.fullmatch_eq, h.legacy_cell he, Entry.get_cell, he]
  exact ⟨htouch, rfl⟩

/-- The second shared cell is used only if the first does not match. -/
theorem Tracks.isIdentifier (h : Tracks s l) (t : String) :
    Tracks { s with shared := (s.shared.isIdentifier (.string t)).2.1 }
        (l.after (.isIdentifier (.string t))) ∧
      (s.shared.isIdentifier (.string t)).2.2 = l.announcements (.isIdentifier (.string t)) := by
  obtain ⟨hfirst, hlog⟩ := h.isUri t
  have hfound := (h.sound.isUri (.string t)).1
  unfold Shared.isIdentifier
  simp only [Ledger.after, Ledger.announcements, Step.touched, ← hfound]
  generalize s.shared.isUri (.string t) = used at hfirst hlog hfound
  obtain ⟨found, shared, log⟩ := used
  cases found with
  | true =>
    rw [if_pos rfl]
    refine ⟨hfirst, ?_⟩
    rw [List.flatMap_cons, List.flatMap_nil, List.append_nil]
    exact hlog
  | false =>
    obtain ⟨hsecond, hmore⟩ := hfirst.isLegacy t
    rw [touch_apply_of_ne (by decide)] at hmore
    rw [if_neg Bool.false_ne_true]
    refine ⟨hsecond, ?_⟩
    rw [List.flatMap_cons, List.flatMap_cons, List.flatMap_nil, List.append_nil, ← hmore]
    exact congrArg (· ++ _) hlog

/-- A step that makes no cell under the name of a shared one. -/
def Step.SparesShared : Step → Prop
  | .make name _ _ => name ≠ "URI" ∧ name ≠ "LEGACY"
  | _ => True

/-- **A step does to the store what the ledger says, and announces what it says.** -/
theorem Tracks.step (h : Tracks s l) {step : Step} (hstep : step.SparesShared) :
    Tracks (s.step step).2.1 (l.after step) ∧ (s.step step).2.2 = l.announcements step := by
  have hone (name : String) : l.announcements (.get name) =
      ((l name).map Entry.announcements).getD [] := List.append_nil _
  cases step with
  | make name expression flags => exact ⟨h.make hstep expression flags, rfl⟩
  | isCompiled name => exact h.onCell_look name fun _ => rfl
  | text name => exact h.onCell_look name fun _ => rfl
  | attributes name => exact h.onCell_look name fun _ => rfl
  | get name =>
    rw [hone]
    exact h.onCell_touch name fun c => rfl
  | fullmatch name v =>
    refine (h.onCell_touch name fun c => ?_).imp_right (·.trans (hone name).symm)
    simp only [c.fullmatch_eq]
  | getAtOnce name n =>
    cases n with
    | zero =>
      refine h.onCell_look name fun c => ?_
      simp only [getAtOnce_zero]
    | succ n =>
      refine (h.onCell_touch name fun c => ?_).imp_right (·.trans (hone name).symm)
      simp only [getAtOnce_succ]
  | isUri v =>
    cases v with
    | string t => exact (h.isUri t).imp_right (·.trans (List.append_nil _).symm)
    | _ => exact ⟨h, rfl⟩
  | isLegacy v =>
    cases v with
    | string t => exact (h.isLegacy t).imp_right (·.trans (List.append_nil _).symm)
    | _ => exact ⟨h, rfl⟩
  | isIdentifier v =>
    cases v with
    | string t => exact h.isIdentifier t
    | _ => exact ⟨h, rfl⟩

/-! ## Runs -/

theorem Tracks.run (h : Tracks s l) {steps : List Step}
    (hsteps : ∀ step ∈ steps, step.SparesShared) :
    Tracks (s.run steps).2 (steps.foldl Ledger.after l) ∧
      (s.run steps).1.map Prod.snd = l.announced steps := by
  induction steps generalizing s l with
  | nil => exact ⟨h, rfl⟩
  | cons step steps ih =>
    obtain ⟨htracks, hlog⟩ := h.step (hsteps step List.mem_cons_self)
    obtain ⟨hfinal, hlogs⟩ := ih htracks fun x hx => hsteps x (List.mem_cons_of_mem step hx)
    refine ⟨hfinal, ?_⟩
    rw [Ledger.announced, ← hlog, ← hlogs]
    rfl

end CredentialCheck.Pattern
