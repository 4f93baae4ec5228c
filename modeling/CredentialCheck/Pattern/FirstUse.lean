import CredentialCheck.Pattern.Cell

/-!
# The first use of a cell by several threads

What happens when threads use one cell at the same time, step by step. A thread first looks at the
cell without a lock and is done when it finds the pattern. Otherwise it takes the cell's lock,
looks again, compiles and stores the pattern if it is still missing, announces it, and gives the
lock back. If the expression cannot be compiled, the lock is given back and the thread fails.

Each pattern that is stored is an object of its own; `Object.serial` tells two apart. A
configuration moves by the step of one thread (`Config.step`), which is disabled when that thread
waits for a lock that another one holds, or is done. `Config.run` follows a schedule.
-/

namespace CredentialCheck.Pattern.FirstUse

/-- A compiled pattern as an object: two compilations give two objects. -/
structure Object where
  serial : Nat
  pattern : Compiled
  deriving DecidableEq

/-- Where a thread is. -/
inductive Phase
  /-- About to look at the cell without the lock. -/
  | looking
  /-- About to take the lock. -/
  | waiting
  /-- Holds the lock; about to look again. -/
  | checking
  /-- Holds the lock; about to compile and store. -/
  | compiling
  /-- Holds the lock; about to announce the pattern that it stored. -/
  | announcing
  /-- Holds the lock; about to give it back and to return what the cell holds. -/
  | leaving
  /-- Holds the lock; about to give it back and to fail. -/
  | failing (failure : Failure)
  /-- Done, with what the cell held. -/
  | returned (object : Option Object)
  /-- Done, with a failure. -/
  | failed (failure : Failure)
  deriving DecidableEq

/-- Whether the thread is done. -/
def Phase.isDone : Phase → Bool
  | .returned _ => true
  | .failed _ => true
  | _ => false

/-- One cell and the threads that use it. -/
structure Config where
  expression : Value
  flags : Flags
  /-- The thread that holds the lock. -/
  lock : Option Nat
  /-- What the cell holds. -/
  stored : Option Object
  /-- The number of times that a pattern was stored. -/
  stores : Nat
  /-- The announcements made. -/
  log : List String
  threads : List Phase

namespace Config

/-- A cell that `n` threads are about to use. A pattern that it holds already is object 0. -/
def ofCell (c : Cell) (n : Nat) : Config :=
  ⟨c.expression, c.flags, none, c.compiled.map (⟨0, ·⟩), c.compiled.toList.length, [],
    List.replicate n .looking⟩

/-- A fresh cell that `n` threads are about to use. -/
def start (expression : Value) (flags : Flags) (n : Nat) : Config :=
  ofCell (.fresh expression flags) n

/-- The configuration with the thread `i` in another phase. -/
def move (s : Config) (i : Nat) (phase : Phase) : Config :=
  { s with threads := s.threads.set i phase }

/-- The step of the thread `i` from a given phase, if it is enabled. -/
def stepFrom (s : Config) (i : Nat) : Phase → Option Config
  | .looking =>
    match s.stored with
    | some o => some (s.move i (.returned (some o)))
    | none => some (s.move i .waiting)
  | .waiting =>
    match s.lock with
    | some _ => none
    | none => some { s.move i .checking with lock := some i }
  | .checking => some (s.move i (if s.stored.isNone then .compiling else .leaving))
  | .compiling =>
    match compile s.expression s.flags with
    | .ok p =>
      some { s.move i .announcing with stored := some ⟨s.stores, p⟩, stores := s.stores + 1 }
    | .error f => some (s.move i (.failing f))
  | .announcing => some { s.move i .leaving with log := s.log ++ [announcement s.expression] }
  | .leaving => some { s.move i (.returned s.stored) with lock := none }
  | .failing f => some { s.move i (.failed f) with lock := none }
  | .returned _ => none
  | .failed _ => none

/-- The step of the thread `i`, if there is such a thread and it can go on. -/
def step (s : Config) (i : Nat) : Option Config := s.threads[i]?.bind (s.stepFrom i)

/-- Follows a schedule; the turn of a thread that cannot go on passes. -/
def run (s : Config) : List Nat → Config
  | [] => s
  | i :: schedule => run ((s.step i).getD s) schedule

/-- Whether all threads are done. -/
def isDone (s : Config) : Bool := s.threads.all Phase.isDone

/-- The cell as the threads have left it. -/
def cell (s : Config) : Cell := ⟨s.expression, s.flags, s.stored.map Object.pattern⟩

/-- The objects that threads have returned. -/
def results (s : Config) : List Object :=
  s.threads.filterMap fun phase => match phase with
    | .returned o => o
    | _ => none

/-- The schedule in which `n` threads run one after the other; none takes more than seven steps. -/
def oneByOne (n : Nat) : List Nat := (List.range n).flatMap (List.replicate 7)

end Config

end CredentialCheck.Pattern.FirstUse
