import CredentialCheck.CommandLine.Run
import CredentialCheck.Proofs.Log.Reach
import CredentialCheck.Proofs.Pattern.Shared

/-!
# What an action comes to

Between two items of a run the world is `Ready`: the shared patterns are sound, the console takes
everything, and the files have a property that no record takes from them. An action `Yields` a
result and lines if from every such world it comes to that result, prints just those lines on the
output stream, and leaves the world ready. What such an action does depends neither on the patterns
compiled so far nor on the log. An action that reads a file `Gives` a result and lines that depend
on what it finds.

* `Yields.bind` and `Gives.bind` put actions together, `YieldsFrom.bind_gives` the two sorts.
* `yields_record`, `yields_printLine` and `yields_testWith` are the single actions.
* `ready_reachesOnly`: a property of the files that every log has.
-/

namespace CredentialCheck.CommandLine

/-- The world of a run between two items, when the files have a property. -/
structure World.Ready (holds : FileSystem → Prop) (w : World) : Prop where
  patterns : w.patterns.Sound
  console : w.printsLeft = none
  keeps : ∀ fs record, holds fs → holds (w.log.emit fs w.stamp record).2
  files : holds w.files

/-- From the world the action comes to the result, prints the lines and leaves the world ready. -/
def YieldsFrom (holds : FileSystem → Prop) (w : World) {α : Type} (x : Action α) (result : α)
    (lines : List String) : Prop :=
  ∃ w', x.run w = (result, w') ∧ w'.Ready holds ∧
    w'.console.prints .output = w.console.prints .output ++ lines.map (· ++ "\n") ∧
    w'.console.prints .error = w.console.prints .error

/-- From every ready world the action comes to the result, prints the lines and leaves the world
ready. -/
def Yields (holds : FileSystem → Prop) {α : Type} (x : Action α) (result : α)
    (lines : List String) : Prop :=
  ∀ w : World, w.Ready holds → YieldsFrom holds w x result lines

/-- From every ready world the action comes to a result and prints lines that meet the
postcondition, and leaves the world ready. -/
def Gives (holds : FileSystem → Prop) {α : Type} (x : Action α)
    (post : α → List String → Prop) : Prop :=
  ∀ w : World, w.Ready holds → ∃ result lines, post result lines ∧ YieldsFrom holds w x result lines

section

variable {holds : FileSystem → Prop} {α β : Type}

/-! ## Putting actions together -/

theorem run_get_bind (f : World → Action α) (w : World) :
    (MonadState.get >>= f).run w = (f w).run w := rfl

theorem Yields.pure (a : α) : Yields holds (Pure.pure a) a [] := fun w hw =>
  ⟨w, rfl, hw, (List.append_nil _).symm, rfl⟩

theorem Yields.gives {x : Action α} {result : α} {lines : List String}
    (h : Yields holds x result lines) {post : α → List String → Prop} (hpost : post result lines) :
    Gives holds x post := fun w hw => ⟨result, lines, hpost, h w hw⟩

/-- An action of which we know what it comes to from one world, and another behind it. -/
theorem YieldsFrom.bind_gives {w : World} {x : Action α} {a : α} {lines : List String}
    (hx : YieldsFrom holds w x a lines) {f : α → Action β} {post : β → List String → Prop}
    (hf : Gives holds (f a) post) :
    ∃ b more, post b more ∧ YieldsFrom holds w (x >>= f) b (lines ++ more) := by
  obtain ⟨w', hrun, hready, houtput, herror⟩ := hx
  obtain ⟨b, more, hpost, w'', hrun', hready', houtput', herror'⟩ := hf w' hready
  refine ⟨b, more, hpost, w'', ?_, hready', ?_, herror'.trans herror⟩
  · rw [StateT.run_bind, hrun]
    exact hrun'
  · rw [houtput', houtput, List.map_append, List.append_assoc]

theorem YieldsFrom.bind {w : World} {x : Action α} {a : α} {lines : List String}
    (hx : YieldsFrom holds w x a lines) {f : α → Action β} {b : β} {more : List String}
    (hf : Yields holds (f a) b more) : YieldsFrom holds w (x >>= f) b (lines ++ more) := by
  have hgives : Gives holds (f a) fun result printed => result = b ∧ printed = more :=
    hf.gives ⟨rfl, rfl⟩
  obtain ⟨_, _, ⟨rfl, rfl⟩, hboth⟩ := hx.bind_gives hgives
  exact hboth

theorem Yields.bind {x : Action α} {a : α} {lines : List String} (hx : Yields holds x a lines)
    {f : α → Action β} {b : β} {more : List String} (hf : Yields holds (f a) b more) :
    Yields holds (x >>= f) b (lines ++ more) := fun w hw => (hx w hw).bind hf

theorem Gives.bind {x : Action α} {middle : α → List String → Prop} (hx : Gives holds x middle)
    {f : α → Action β} {post : β → List String → Prop}
    (hf : ∀ a lines, middle a lines → Gives holds (f a) fun b more => post b (lines ++ more)) :
    Gives holds (x >>= f) post := by
  intro w hw
  obtain ⟨a, lines, hmiddle, hfirst⟩ := hx w hw
  obtain ⟨b, more, hpost, hboth⟩ := hfirst.bind_gives (hf a lines hmiddle)
  exact ⟨b, lines ++ more, hpost, hboth⟩

/-! ## The log -/

theorem yields_record (logger : String) (level : Int) (message : String) :
    Yields holds (record logger level message) () [] := by
  intro w hw
  refine ⟨_, rfl, ⟨hw.patterns, hw.console, hw.keeps, hw.keeps _ _ hw.files⟩, ?_, ?_⟩
  · simp [Console.write, Console.prints_add]
  · simp [Console.write, Console.prints_add]

theorem yields_forM_record (logger : String) (level : Int) (messages : List String) :
    Yields holds (messages.forM (record logger level)) () [] := by
  induction messages with
  | nil => exact .pure ()
  | cons message messages ih => exact (yields_record logger level message).bind ih

/-- A log keeps the files as they were but for what it reaches. -/
theorem ready_reachesOnly {written moved : Path → Prop} {opened : FileSystem} {w : World}
    (hpatterns : w.patterns.Sound) (hconsole : w.printsLeft = none)
    (hlog : w.log.ReachesOnly written moved) (hfiles : w.files = opened) :
    w.Ready (opened.SameBut written moved) := by
  refine ⟨hpatterns, hconsole, fun fs record hfs => ?_, ?_⟩
  · exact hfs.trans (Log.sameBut_emit hlog fs w.stamp record)
  · rw [hfiles]
    exact .refl written moved opened

/-! ## Patterns -/

/-- A test changes the patterns, and then logs what is new. -/
theorem run_testWith (test : Pattern.Shared → Value → Bool × Pattern.Shared × List String)
    (v : Value) (w : World) :
    (testWith test v).run w = ((test w.patterns v).1,
      (((test w.patterns v).2.2.forM (record "anoncreds_validation.core.patterns" 10)).run
        { w with patterns := (test w.patterns v).2.1 }).2) := rfl

/-- A test that answers as `answer` whatever has been compiled. -/
theorem yields_testWith {test : Pattern.Shared → Value → Bool × Pattern.Shared × List String}
    {v : Value} {answer : Bool}
    (htest : ∀ s : Pattern.Shared, s.Sound → (test s v).1 = answer ∧ (test s v).2.1.Sound) :
    Yields holds (testWith test v) answer [] := by
  intro w hw
  obtain ⟨hanswer, hsound⟩ := htest w.patterns hw.patterns
  have hready : World.Ready holds { w with patterns := (test w.patterns v).2.1 } :=
    ⟨hsound, hw.console, hw.keeps, hw.files⟩
  obtain ⟨w', hrun, hready', houtput, herror⟩ :=
    yields_forM_record "anoncreds_validation.core.patterns" 10 (test w.patterns v).2.2 _ hready
  refine ⟨w', ?_, hready', houtput, herror⟩
  rw [run_testWith, hrun, hanswer]

/-! ## The console -/

theorem run_printLine {w : World} (h : w.printsLeft = none) (stream : Stream) (text : String) :
    (printLine stream text).run w = (.ok (), { w with console := w.console.line stream text }) := by
  obtain ⟨console, printsLeft, files, log, patterns, stamp⟩ := w
  cases h
  rfl

theorem yields_printLine (text : String) :
    Yields holds (printLine .output text) (.ok ()) [text] := by
  intro w hw
  refine ⟨_, run_printLine hw.console .output text, ⟨hw.patterns, hw.console, hw.keeps, hw.files⟩,
    ?_, ?_⟩
  · simp [Console.line, Console.prints_add]
  · simp [Console.line, Console.prints_add]

end

end CredentialCheck.CommandLine
