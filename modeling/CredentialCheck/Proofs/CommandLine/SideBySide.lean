import CredentialCheck.Proofs.CommandLine.Lines
import CredentialCheck.Proofs.Log.Handlers

/-!
# Runs side by side

A property that single actions have, and that is kept when actions are put together, belongs to the
checks of all items: it is `Pervasive`. One such property is that two runs over the same items, from
worlds that need not be the same, come to the same and keep the worlds related.

* `Agrees` is that property of an action. `Brings` is about one world: what an action leaves behind,
  whatever it comes to.
* `Pervasive.checkAll`: the items of a run, one after the other.
* `World.Alike` relates worlds in which the same has been printed and the same documents stand,
  whatever their logs and patterns are.
* `execute_alike`: runs that set their logs up in different ways print the same and end alike.
-/

namespace CredentialCheck.CommandLine

section

variable {R : World → World → Prop} {α β : Type}

/-! ## Actions -/

/-- From related worlds the action comes to the same result and to related worlds. -/
def Agrees (R : World → World → Prop) {α : Type} (x : Action α) : Prop :=
  ∀ w₁ w₂ : World, R w₁ w₂ → (x.run w₁).1 = (x.run w₂).1 ∧ R (x.run w₁).2 (x.run w₂).2

theorem Agrees.pure (a : α) : Agrees R (Pure.pure a : Action α) := fun _ _ h => ⟨rfl, h⟩

theorem Agrees.bind {x : Action α} (hx : Agrees R x) {f : α → Action β}
    (hf : ∀ a, Agrees R (f a)) : Agrees R (x >>= f) := by
  intro w₁ w₂ h
  obtain ⟨hresult, hafter⟩ := hx w₁ w₂ h
  change ((f (x.run w₁).1).run (x.run w₁).2).1 = ((f (x.run w₂).1).run (x.run w₂).2).1 ∧
    R ((f (x.run w₁).1).run (x.run w₁).2).2 ((f (x.run w₂).1).run (x.run w₂).2).2
  rw [← hresult]
  exact hf _ _ _ hafter

/-- An action that looks at the world first, and at nothing that tells the two worlds apart. -/
theorem Agrees.get {f : World → Action α}
    (h : ∀ w₁ w₂ : World, R w₁ w₂ → f w₁ = f w₂ ∧ Agrees R (f w₂)) :
    Agrees R (MonadState.get >>= f) := by
  intro w₁ w₂ hw
  obtain ⟨hsame, hagrees⟩ := h w₁ w₂ hw
  rw [run_get_bind, run_get_bind, hsame]
  exact hagrees w₁ w₂ hw

/-- From every world with the one property the action leaves a world with the other. -/
def Brings (pre : World → Prop) {α : Type} (x : Action α) (post : World → Prop) : Prop :=
  ∀ w : World, pre w → post (x.run w).2

variable {pre middle post : World → Prop}

theorem Brings.pure (a : α) : Brings pre (Pure.pure a : Action α) pre := fun _ h => h

theorem Brings.bind {x : Action α} (hx : Brings pre x middle) {f : α → Action β}
    (hf : ∀ a, Brings middle (f a) post) : Brings pre (x >>= f) post := fun w h =>
  hf _ _ (hx w h)

/-! ## Items -/

/-- A property of actions that the single actions of a run have, and all that is put together from
such actions. Documents are read at paths that are `readable` only. -/
structure Pervasive (P : (α : Type) → Action α → Prop) (readable : String → Prop) : Prop where
  pure : ∀ {α : Type} (a : α), P α (Pure.pure a)
  bind : ∀ {α β : Type} {x : Action α} {f : α → Action β}, P α x → (∀ a, P β (f a)) → P β (x >>= f)
  record : ∀ logger level message, P Unit (record logger level message)
  print : ∀ text, P _ (printLine .output text)
  isUri : ∀ v, P Bool (testWith Pattern.Shared.isUri v)
  isLegacy : ∀ v, P Bool (testWith Pattern.Shared.isLegacy v)
  isIdentifier : ∀ v, P Bool (testWith Pattern.Shared.isIdentifier v)
  read : ∀ {path : String}, readable path →
    ∀ {α : Type} {f : Except FileSystem.Fault String → Action α}, (∀ found, P α (f found)) →
      P α (MonadState.get >>= fun w => f (w.files.readText (.text path)))

variable {P : (α : Type) → Action α → Prop} {readable : String → Prop}

theorem Pervasive.classifyIdentifier (h : Pervasive P readable) (s : String) :
    P _ (classifyIdentifier s) := by
  refine h.bind (h.isUri _) fun uri => ?_
  cases uri with
  | true => exact h.pure _
  | false =>
    refine h.bind (h.isLegacy _) fun legacy => ?_
    cases legacy <;> exact h.pure _

theorem Pervasive.acceptsIdentifier (h : Pervasive P readable) (s : String) (asked : Value) :
    P _ (acceptsIdentifier s asked) := by
  refine h.bind (h.classifyIdentifier s) fun form => ?_
  cases form <;> exact h.pure _

/-- The line on an item, and the verdict that it shows. -/
theorem Pervasive.printVerdict (h : Pervasive P readable) (valid : Bool) (line : String) :
    P _ (do return (← printLine .output line).map fun () => valid) :=
  h.bind (h.print line) fun _ => h.pure _

theorem Pervasive.checkIdentifier (h : Pervasive P readable) (asked : Value) (s : String) :
    P _ (checkIdentifier asked s) :=
  h.bind (h.classifyIdentifier s) fun _ =>
    h.bind (h.acceptsIdentifier s asked) fun _ => h.printVerdict _ _

theorem Pervasive.verdictWith (h : Pervasive P readable) (d : Draft) :
    P _ (d.verdictWith (testWith Pattern.Shared.isIdentifier)) := by
  cases d with
  | schema d =>
    refine h.bind (h.isIdentifier d.issuerId) fun found => ?_
    cases found with
    | false => exact h.pure _
    | true => cases d.attrNames.isTruthy <;> exact h.pure _
  | credentialDefinition d =>
    refine h.bind (h.isIdentifier d.schemaId) fun found => ?_
    cases found with
    | false => exact h.pure _
    | true =>
      refine h.bind (h.isIdentifier d.issuerId) fun found => ?_
      cases found with
      | false => exact h.pure _
      | true => cases d.type.equal (.string signatureType) <;> exact h.pure _

theorem Pervasive.loadText (h : Pervasive P readable) (model : Document.Model) (text : String) :
    P _ (loadText model text) := by
  unfold CommandLine.loadText
  cases Document.parse model (.string text) with
  | error issues => exact h.pure _
  | ok d =>
    refine h.bind (h.verdictWith d.draft) fun verdict => ?_
    cases verdict with
    | error m => exact h.pure _
    | ok error? =>
      cases error? with
      | none => exact h.pure _
      | some e =>
        dsimp only
        cases reasonOf e with
        | error escape => exact h.pure _
        | ok reason => exact h.bind (h.record _ _ _) fun _ => h.pure _

/-- What is done with a document, by what is read at its path. -/
def loadFound (model : Document.Model) (path : String) (found : Except FileSystem.Fault String) :
    Action (Except Escape (Option Reason)) :=
  match found with
  | .ok text => loadText model text
  | .error .nullInPath => return .error (.badPath .nullInPath)
  | .error fault => return .ok (some ("Cannot read " ++ path ++ ": " ++ fault.message))

theorem Pervasive.loadFile (h : Pervasive P readable) (model : Document.Model) {path : String}
    (hpath : readable path) : P _ (loadFile model path) := by
  have hfound : ∀ found, P _ (loadFound model path found) := by
    intro found
    cases found with
    | ok text => exact h.loadText model text
    | error fault => cases fault <;> exact h.pure _
  exact h.read hpath hfound

theorem Pervasive.checkDocument (h : Pervasive P readable) (model : Document.Model) {path : Value}
    (hpath : ∀ s, path = .string s → readable s) : P _ (checkDocument model path) := by
  cases path with
  | string s =>
    refine h.bind (h.loadFile model (hpath s rfl)) fun result => ?_
    cases result with
    | error escape => exact h.pure _
    | ok reason? =>
      cases reason? with
      | none => exact h.printVerdict _ _
      | some reason => exact h.bind (h.record _ _ _) fun _ => h.printVerdict _ _
  | _ => exact h.pure _

/-- **The checks of all items have the property.** -/
theorem Pervasive.checkAll (h : Pervasive P readable) (asked : Value) {items : List Item}
    (hitems : ∀ item ∈ items, item.PathIs readable) : P _ (checkAll asked items) := by
  induction items with
  | nil => exact h.pure _
  | cons item items ih =>
    rw [List.forall_mem_cons] at hitems
    have hitem : P _ (checkItem asked item) := by
      cases item with
      | identifier s => exact h.checkIdentifier asked s
      | document model path => exact h.checkDocument model hitems.1
    refine h.bind hitem fun result => ?_
    cases result with
    | error escape => exact h.pure _
    | ok valid =>
      refine h.bind (ih hitems.2) fun rest => ?_
      cases rest <;> exact h.pure _

end

/-! ## What is seen of a world -/

/-- The same has been printed, and as much more can be printed. What the log has shown on the error
stream is left out. -/
structure World.SameOutput (w₁ w₂ : World) : Prop where
  printsLeft : w₁.printsLeft = w₂.printsLeft
  output : w₁.console.text .output = w₂.console.text .output
  prints : ∀ stream, w₁.console.prints stream = w₂.console.prints stream

theorem World.SameOutput.refl (w : World) : w.SameOutput w := ⟨rfl, rfl, fun _ => rfl⟩

theorem World.SameOutput.symm {w₁ w₂ : World} (h : w₁.SameOutput w₂) : w₂.SameOutput w₁ :=
  ⟨h.printsLeft.symm, h.output.symm, fun stream => (h.prints stream).symm⟩

theorem World.SameOutput.trans {w₁ w₂ w₃ : World} (h : w₁.SameOutput w₂) (h' : w₂.SameOutput w₃) :
    w₁.SameOutput w₃ :=
  ⟨h.printsLeft.trans h'.printsLeft, h.output.trans h'.output,
    fun stream => (h.prints stream).trans (h'.prints stream)⟩

/-- The log reaches certain places only, and so far nothing has changed but there. -/
structure World.Apart (start : FileSystem) (written moved : Path → Prop) (w : World) : Prop where
  patterns : w.patterns.Sound
  log : w.log.ReachesOnly written moved
  files : start.SameBut written moved w.files

/-- Both logs reach certain places only, and the same has been printed. -/
structure World.Alike (start : FileSystem) (written moved : Path → Prop) (w₁ w₂ : World) :
    Prop where
  left : w₁.Apart start written moved
  right : w₂.Apart start written moved
  output : w₁.SameOutput w₂

section

variable {start : FileSystem} {written moved : Path → Prop}

/-! ## The log on one side -/

/-- A record is not seen. -/
theorem World.Apart.record {w : World} (h : w.Apart start written moved) (logger : String)
    (level : Int) (message : String) :
    ((record logger level message).run w).2.Apart start written moved ∧
      w.SameOutput ((CommandLine.record logger level message).run w).2 := by
  refine ⟨⟨h.patterns, h.log, h.files.trans (Log.sameBut_emit h.log _ _ _)⟩, rfl, ?_,
    fun stream => ?_⟩
  · change _ = (w.console.write .error _).text .output
    simp [Console.write, Console.text_add]
  · change _ = (w.console.write .error _).prints stream
    simp [Console.write, Console.prints_add]

theorem World.Apart.forM_record {w : World} (h : w.Apart start written moved) (logger : String)
    (level : Int) (messages : List String) :
    ((messages.forM (CommandLine.record logger level)).run w).2.Apart start written moved ∧
      w.SameOutput ((messages.forM (CommandLine.record logger level)).run w).2 := by
  induction messages generalizing w with
  | nil => exact ⟨h, .refl w⟩
  | cons message messages ih =>
    obtain ⟨hapart, hsame⟩ := h.record logger level message
    obtain ⟨hapart', hsame'⟩ := ih hapart
    exact ⟨hapart', hsame.trans hsame'⟩

/-- What a test comes to does not depend on the patterns compiled so far, and its announcements are
not seen. -/
theorem World.Apart.testWith {w : World} (h : w.Apart start written moved)
    {test : Pattern.Shared → Value → Bool × Pattern.Shared × List String} {v : Value}
    {answer : Bool}
    (htest : ∀ s : Pattern.Shared, s.Sound → (test s v).1 = answer ∧ (test s v).2.1.Sound) :
    ((testWith test v).run w).1 = answer ∧ ((testWith test v).run w).2.Apart start written moved ∧
      w.SameOutput ((CommandLine.testWith test v).run w).2 := by
  obtain ⟨hanswer, hsound⟩ := htest w.patterns h.patterns
  let tested : World := { w with patterns := (test w.patterns v).2.1 }
  have hapart : tested.Apart start written moved := ⟨hsound, h.log, h.files⟩
  obtain ⟨hapart', hsame⟩ := hapart.forM_record "anoncreds_validation.core.patterns" 10
    (test w.patterns v).2.2
  exact ⟨hanswer, hapart', hsame.printsLeft, hsame.output, hsame.prints⟩

/-! ## Worlds alike -/

theorem World.Alike.of_apart {w₁ w₂ w₁' w₂' : World} (h : w₁.Alike start written moved w₂)
    (h₁ : w₁'.Apart start written moved ∧ w₁.SameOutput w₁')
    (h₂ : w₂'.Apart start written moved ∧ w₂.SameOutput w₂') : w₁'.Alike start written moved w₂' :=
  ⟨h₁.1, h₂.1, h₁.2.symm.trans (h.output.trans h₂.2)⟩

theorem agrees_record (logger : String) (level : Int) (message : String) :
    Agrees (World.Alike start written moved) (record logger level message) := fun _ _ h =>
  ⟨rfl, h.of_apart (h.left.record _ _ _) (h.right.record _ _ _)⟩

theorem agrees_testWith {test : Pattern.Shared → Value → Bool × Pattern.Shared × List String}
    {v : Value} {answer : Bool}
    (htest : ∀ s : Pattern.Shared, s.Sound → (test s v).1 = answer ∧ (test s v).2.1.Sound) :
    Agrees (World.Alike start written moved) (testWith test v) := by
  intro w₁ w₂ h
  obtain ⟨hresult₁, hafter₁⟩ := h.left.testWith htest
  obtain ⟨hresult₂, hafter₂⟩ := h.right.testWith htest
  exact ⟨hresult₁.trans hresult₂.symm, h.of_apart hafter₁ hafter₂⟩

theorem agrees_printLine (stream : Stream) (text : String) :
    Agrees (World.Alike start written moved) (printLine stream text) := by
  rintro ⟨console₁, left, files₁, log₁, patterns₁, stamp₁⟩
    ⟨console₂, left₂, files₂, log₂, patterns₂, stamp₂⟩ h
  obtain rfl : left = left₂ := h.output.printsLeft
  have hprinted : World.Alike start written moved
      ⟨console₁.line stream text, left.map (· - 1), files₁, log₁, patterns₁, stamp₁⟩
      ⟨console₂.line stream text, left.map (· - 1), files₂, log₂, patterns₂, stamp₂⟩ := by
    refine ⟨⟨h.left.patterns, h.left.log, h.left.files⟩,
      ⟨h.right.patterns, h.right.log, h.right.files⟩, rfl, ?_, fun other => ?_⟩
    · simp only [Console.line, Console.text_add]
      rw [h.output.output]
    · simp only [Console.line, Console.prints_add]
      rw [h.output.prints other]
  rcases left with _ | _ | n
  · exact ⟨rfl, hprinted⟩
  · exact ⟨rfl, h⟩
  · exact ⟨rfl, hprinted⟩

theorem agrees_shutdownLog : Agrees (World.Alike start written moved) shutdownLog := by
  have hshutdown {w : World} (h : w.Apart start written moved) :
      (shutdownLog.run w).2.Apart start written moved := by
    refine ⟨h.patterns, fun handler hhandler => h.log handler ?_, h.files⟩
    change handler ∈ (w.log.shutdown .none).1.handlers at hhandler
    rw [Log.shutdown_fst] at hhandler
    exact List.diff_subset _ _ hhandler
  exact fun _ _ h => ⟨rfl, hshutdown h.left, hshutdown h.right, h.output.printsLeft,
    h.output.output, h.output.prints⟩

/-- Documents are read alike if their paths avoid what the logs reach. -/
theorem pervasive_alike (start : FileSystem) (written moved : Path → Prop) :
    Pervasive (fun _ x => Agrees (World.Alike start written moved) x)
      fun path => start.Avoids written moved (.text path) where
  pure := .pure
  bind hx hf := hx.bind hf
  record := agrees_record
  print := agrees_printLine .output
  isUri v := agrees_testWith fun _ h => h.isUri v
  isLegacy v := agrees_testWith fun _ h => h.isLegacy v
  isIdentifier v := agrees_testWith fun _ h => h.isIdentifier v
  read hpath _ _ hf := .get fun _ _ h => by
    rw [h.left.files.readText hpath, h.right.files.readText hpath]
    exact ⟨rfl, hf _⟩

/-! ## Whole runs -/

/-- What a run does once its items have been checked. -/
def finish (result : Except Escape Nat) : Action Exit := do
  shutdownLog
  match result with
  | .error escape => return .escaped escape
  | .ok 0 => return .status 0
  | .ok n =>
    match ← printLine .error (toString n ++ " item(s) failed validation") with
    | .error escape => return .escaped escape
    | .ok () => return .status 1

/-- What a run does once its log is set up. -/
def checkItems (a : Arguments) : Action Exit := checkAll a.kind a.items >>= finish

theorem Agrees.finish {R : World → World → Prop} (hshutdown : Agrees R shutdownLog)
    (hprint : ∀ text, Agrees R (printLine .error text)) (result : Except Escape Nat) :
    Agrees R (finish result) := by
  refine hshutdown.bind fun _ => ?_
  rcases result with escape | n
  · exact .pure _
  · cases n with
    | zero => exact .pure _
    | succ n =>
      refine (hprint _).bind fun printed => ?_
      cases printed <;> exact .pure _

/-- What the console is, and how much it takes, is all that printing a line changes. -/
theorem brings_printLine {kept : World → Prop}
    (h : ∀ (w : World) (console : Console) (left : Option Nat), kept w →
      kept { w with console := console, printsLeft := left })
    (stream : Stream) (text : String) : Brings kept (printLine stream text) kept := by
  rintro ⟨console, left, files, log, patterns, stamp⟩ hw
  rcases left with _ | _ | n
  · exact h _ _ none hw
  · exact hw
  · exact h _ _ (some n) hw

/-- Behind the checks the log is shut down, whatever the checks came to. -/
theorem Brings.finish {middle post : World → Prop} (hshutdown : Brings middle shutdownLog post)
    (hprint : ∀ text, Brings post (printLine .error text) post) (result : Except Escape Nat) :
    Brings middle (finish result) post := by
  refine hshutdown.bind fun _ => ?_
  rcases result with escape | n
  · exact .pure _
  · cases n with
    | zero => exact .pure _
    | succ n =>
      refine (hprint _).bind fun printed => ?_
      cases printed <;> exact .pure _

/-- Behind the checks the files stay as they are. -/
theorem files_checkItems (a : Arguments) (w : World) :
    ((checkItems a).run w).2.files = ((checkAll a.kind a.items).run w).2.files := by
  let Checked (w' : World) : Prop := w'.files = ((checkAll a.kind a.items).run w).2.files
  have hshutdown : Brings Checked shutdownLog Checked := fun _ h => h
  exact hshutdown.finish (brings_printLine (fun _ _ _ h => h) .error) _ _ rfl

theorem run_execute_of_setupLog {a : Arguments} {w started : World}
    (h : (setupLog a.logLevel a.logFile).run w = (.ok (), started)) :
    (execute a).run w = (checkItems a).run started := by
  rw [execute, StateT.run_bind, h]
  rfl

/-- **Runs over the same items print the same and end alike**, however their logs are set up, if the
documents avoid what the logs reach. -/
theorem checkItems_alike {a₁ a₂ : Arguments} (hkind : a₁.kind = a₂.kind)
    (hitems : a₁.items = a₂.items) (hpaths : ∀ item ∈ a₁.items, item.PathIs fun path =>
      start.Avoids written moved (.text path))
    {w₁ w₂ : World} (halike : w₁.Alike start written moved w₂) :
    ((checkItems a₁).run w₁).1 = ((checkItems a₂).run w₂).1 ∧
      ((checkItems a₁).run w₁).2.SameOutput ((checkItems a₂).run w₂).2 := by
  have hagrees : Agrees (World.Alike start written moved) (checkItems a₁) :=
    ((pervasive_alike start written moved).checkAll a₁.kind hpaths).bind
      (agrees_shutdownLog.finish (agrees_printLine .error))
  have hsame : checkItems a₁ = checkItems a₂ := by
    rw [checkItems, checkItems, hkind, hitems]
  obtain ⟨hexit, hafter⟩ := hagrees w₁ w₂ halike
  rw [← hsame]
  exact ⟨hexit, hafter.output⟩

end

end CredentialCheck.CommandLine
