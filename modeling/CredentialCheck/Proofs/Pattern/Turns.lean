import CredentialCheck.Pattern.Store
import CredentialCheck.Proofs.Pattern.FirstUse

/-!
# Threads that ask at once

When several threads use a cell and each is done before the next one begins, the first makes the one
use that counts: it finds the pattern, or compiles it, or fails, and all others come to the same.
Any other order of their steps ends with the same objects, cell and announcements.

* `Config.run_turn_filled`, `Config.run_turn_compiles` and `Config.run_turn_fails` are the turns of
  one thread.
* `Config.run_turns`: turns that leave everything as it is but for the thread itself.
* `getAtOnce_zero` and `getAtOnce_succ`: what it comes to when no thread, or some, ask a cell for
  its pattern.
* `getAtOnce_eq_of_isDone`: what it comes to under any schedule that ends with all threads done.
-/

namespace CredentialCheck.Pattern

namespace FirstUse.Config

variable {s t : Config} {i : Nat}

/-! ## The turn of one thread -/

theorem run_append (s : Config) (first second : List Nat) :
    s.run (first ++ second) = (s.run first).run second := by
  induction first generalizing s with
  | nil => rfl
  | cons i first ih => exact ih _

/-- The next step of a turn, by the phase that the thread is in. -/
theorem run_next {phase : Phase} (hphase : s.threads[i]? = some phase)
    (hs : s.stepFrom i phase = some t) (k : Nat) :
    s.run (List.replicate (k + 1) i) = t.run (List.replicate k i) := by
  have hstep : s.step i = some t := by rw [step, hphase, Option.bind_some, hs]
  rw [List.replicate_succ, run, hstep]
  rfl

/-- The turn of a thread that is done passes. -/
theorem run_done {phase : Phase} (hphase : s.threads[i]? = some phase)
    (hs : s.stepFrom i phase = none) (k : Nat) : s.run (List.replicate k i) = s := by
  have hstep : s.step i = none := by rw [step, hphase, Option.bind_some, hs]
  induction k with
  | zero => rfl
  | succ k ih => rw [List.replicate_succ, run, hstep, Option.getD_none, ih]

/-- A thread is where it has moved. -/
theorem getElem?_move (hi : i < s.threads.length) (phase : Phase) :
    (s.threads.set i phase)[i]? = some phase := by
  rw [List.getElem?_set_self hi]

/-- A thread that finds the pattern is done at once. -/
theorem run_turn_filled {o : Object} (hlook : s.threads[i]? = some .looking)
    (ho : s.stored = some o) :
    s.run (List.replicate 7 i) = s.move i (.returned (some o)) := by
  have hi : i < s.threads.length := (List.getElem?_eq_some_iff.1 hlook).1
  rw [run_next (t := s.move i (.returned (some o))) hlook (by simp only [stepFrom, ho])]
  exact run_done (getElem?_move hi _) rfl 6

section

variable (hlook : s.threads[i]? = some .looking) (hfree : s.lock = none) (hnone : s.stored = none)

include hlook hfree hnone

/-- A thread that does not find the pattern takes the lock and is about to compile. -/
theorem run_turn_compiling (k : Nat) :
    s.run (List.replicate (k + 3) i) =
      Config.run { s.move i .compiling with lock := some i } (List.replicate k i) := by
  have hi : i < s.threads.length := (List.getElem?_eq_some_iff.1 hlook).1
  have hi' (phase : Phase) : i < (s.threads.set i phase).length := by rwa [List.length_set]
  rw [run_next (t := s.move i .waiting) hlook (by simp only [stepFrom, hnone]),
    run_next (t := { s.move i .checking with lock := some i }) (getElem?_move hi _)
      (by simp only [stepFrom, move, hfree, List.set_set]),
    run_next (t := { s.move i .compiling with lock := some i }) (getElem?_move hi _)
      (by simp only [stepFrom, move, hnone, Option.isNone_none, if_true, List.set_set])]

/-- It stores the pattern and announces it. -/
theorem run_turn_compiles {p : Compiled} (hp : compile s.expression s.flags = .ok p) :
    s.run (List.replicate 7 i) =
      { s.move i (.returned (some ⟨s.stores, p⟩)) with
        stored := some ⟨s.stores, p⟩
        stores := s.stores + 1
        log := s.log ++ [announcement s.expression] } := by
  have hi : i < s.threads.length := (List.getElem?_eq_some_iff.1 hlook).1
  let filled : Config :=
    { s with stored := some ⟨s.stores, p⟩, stores := s.stores + 1, lock := some i }
  let announced : Config := { filled with log := s.log ++ [announcement s.expression] }
  rw [run_turn_compiling hlook hfree hnone,
    run_next (t := filled.move i .announcing) (getElem?_move hi _)
      (by simp only [stepFrom, move, hp, List.set_set, filled]),
    run_next (t := announced.move i .leaving) (getElem?_move hi _)
      (by simp only [stepFrom, move, List.set_set, announced, filled]),
    run_next (t := { announced.move i (.returned announced.stored) with lock := none })
      (getElem?_move hi _) (by simp only [stepFrom, move, List.set_set, announced, filled]),
    run_done (getElem?_move hi _) rfl]
  simp only [announced, filled, move, hfree]

/-- It fails and leaves everything else as it was. -/
theorem run_turn_fails {f : Failure} (hf : compile s.expression s.flags = .error f) :
    s.run (List.replicate 7 i) = s.move i (.failed f) := by
  have hi : i < s.threads.length := (List.getElem?_eq_some_iff.1 hlook).1
  rw [run_turn_compiling hlook hfree hnone,
    run_next (t := { s.move i (.failing f) with lock := some i }) (getElem?_move hi _)
      (by simp only [stepFrom, move, hf, List.set_set]),
    run_next (t := { s.move i (.failed f) with lock := none }) (getElem?_move hi _)
      (by simp only [stepFrom, move, List.set_set]),
    run_done (getElem?_move hi _) rfl]
  simp only [move, hfree]

end

/-! ## The turns of all threads -/

/-- The threads `j`, `j + 1`, … take their turns, each of which moves just the thread itself. -/
theorem run_turns {d : Phase}
    (hturn : ∀ threads i, threads[i]? = some .looking →
      Config.run { s with threads } (List.replicate 7 i) =
        { s with threads := threads.set i d })
    (m j : Nat) :
    Config.run { s with threads := List.replicate j d ++ List.replicate m .looking }
        ((List.range' j m).flatMap (List.replicate 7)) =
      { s with threads := List.replicate (j + m) d } := by
  induction m generalizing j with
  | zero => simp [run]
  | succ m ih =>
    have hlook : (List.replicate j d ++ List.replicate (m + 1) Phase.looking)[j]? =
        some .looking := by simp
    have hset : (List.replicate j d ++ List.replicate (m + 1) Phase.looking).set j d =
        List.replicate (j + 1) d ++ List.replicate m .looking := by
      rw [List.set_append_right _ _ (by simp), List.length_replicate, Nat.sub_self,
        List.replicate_succ, List.set_cons_zero, List.replicate_succ', List.append_assoc]
      rfl
    rw [List.range'_succ, List.flatMap_cons, run_append, hturn _ _ hlook, hset, ih]
    rw [Nat.add_assoc, Nat.add_comm 1 m]

end FirstUse.Config

/-! ## Asking at once -/

open FirstUse FirstUse.Config

variable {c : Cell}

theorem getAtOnce_zero (c : Cell) : Store.getAtOnce c 0 = (.objects 0 0, c, []) := by
  obtain ⟨expression, flags, compiled⟩ := c
  cases compiled <;> rfl

/-- What asking at once comes to, by the configuration in which all threads are done. -/
theorem getAtOnce_of_run {n : Nat} {final : Config}
    (hrun : (ofCell c n).run (oneByOne n) = final) :
    Store.getAtOnce c n =
      (.objects final.results.length final.results.eraseDups.length, final.cell, final.log) := by
  rw [Store.getAtOnce, hrun]

/-- Threads that all hold one object hold one object altogether. -/
theorem results_returned (s : Config) (n : Nat) (o : Object) :
    { s with threads := List.replicate (n + 1) (.returned (some o)) }.results =
        List.replicate (n + 1) o ∧
      (List.replicate (n + 1) o).eraseDups.length = 1 := by
  constructor
  · exact List.filterMap_replicate_of_some rfl
  · rw [List.replicate_succ, List.eraseDups_cons]
    simp

theorem results_failed (s : Config) (n : Nat) (f : Failure) :
    { s with threads := List.replicate n (.failed f) }.results = [] :=
  List.filterMap_replicate_of_none rfl

/-- Some threads ask a cell for its pattern: the cell and the announcements are as after one use,
and all threads get the same object, or none gets anything. -/
theorem getAtOnce_succ (c : Cell) (n : Nat) :
    Store.getAtOnce c (n + 1) =
      ((match c.get.1 with
        | .ok _ => .objects (n + 1) 1
        | .error _ => .objects 0 0), c.get.2) := by
  have hrange : oneByOne (n + 1) = (List.range' 0 (n + 1)).flatMap (List.replicate 7) := by
    rw [oneByOne, List.range_eq_range']
  obtain ⟨expression, flags, compiled⟩ := c
  let s : Config := ofCell ⟨expression, flags, compiled⟩ (n + 1)
  unfold Cell.get
  cases compiled with
  | some p =>
    have hrun := run_turns (s := s) (d := .returned (some ⟨0, p⟩))
      (fun threads i h => run_turn_filled h rfl) (n + 1) 0
    rw [List.replicate_zero, List.nil_append, Nat.zero_add, ← hrange] at hrun
    obtain ⟨hresults, hdistinct⟩ := results_returned s n ⟨0, p⟩
    rw [getAtOnce_of_run hrun, hresults, hdistinct, List.length_replicate]
    rfl
  | none =>
    cases hcompile : compile expression flags with
    | error f =>
      have hrun := run_turns (s := s) (d := .failed f)
        (fun threads i h => run_turn_fails h rfl rfl hcompile) (n + 1) 0
      rw [List.replicate_zero, List.nil_append, Nat.zero_add, ← hrange] at hrun
      rw [getAtOnce_of_run hrun, results_failed]
      rfl
    | ok p =>
      -- the first thread compiles, and the others find the pattern
      let filled : Config :=
        { s with stored := some ⟨0, p⟩, stores := 1, log := [announcement expression] }
      have hfirst : s.run (List.replicate 7 0) =
          { filled with
            threads := List.replicate 1 (.returned (some ⟨0, p⟩)) ++ List.replicate n .looking } :=
        run_turn_compiles (s := s) (i := 0) rfl rfl rfl hcompile
      have hrest := run_turns (s := filled) (d := .returned (some ⟨0, p⟩))
        (fun threads i h => run_turn_filled h rfl) n 1
      have hrun : s.run (oneByOne (n + 1)) =
          { filled with threads := List.replicate (n + 1) (.returned (some ⟨0, p⟩)) } := by
        rw [hrange, List.range'_succ, List.flatMap_cons, run_append, hfirst, hrest, Nat.add_comm]
      obtain ⟨hresults, hdistinct⟩ := results_returned filled n ⟨0, p⟩
      rw [getAtOnce_of_run hrun, hresults, hdistinct, List.length_replicate]
      rfl

/-! ## Any other order -/

namespace FirstUse.Config

/-- What every configuration is like that a filled cell with `n` threads leads to. -/
structure Filled (c : Cell) (o : Object) (n : Nat) (s : Config) : Prop where
  cell_eq : s.cell = c
  stored_eq : s.stored = some o
  log_eq : s.log = []
  length_eq : s.threads.length = n
  /-- No thread gets beyond the first look at the cell. -/
  phase_eq : ∀ phase ∈ s.threads, phase = .looking ∨ phase = .returned (some o)

variable {s t : Config} {o : Object} {n i : Nat}

theorem filled_ofCell (e : Value) (fl : Flags) (p : Compiled) (n : Nat) :
    Filled ⟨e, fl, some p⟩ ⟨0, p⟩ n (ofCell ⟨e, fl, some p⟩ n) where
  cell_eq := rfl
  stored_eq := rfl
  log_eq := rfl
  length_eq := List.length_replicate
  phase_eq := fun _ hmem => .inl (List.eq_of_mem_replicate hmem)

/-- A step keeps what a filled cell is like: the thread finds the pattern. -/
theorem Filled.step (h : Filled c o n s) (hs : s.step i = some t) : Filled c o n t := by
  obtain ⟨phase, hphase, hs⟩ := step_eq_some_iff.1 hs
  rcases h.phase_eq phase (List.mem_of_getElem? hphase) with rfl | rfl
  · simp only [stepFrom, h.stored_eq, Option.some.injEq] at hs
    subst hs
    refine ⟨h.cell_eq, h.stored_eq, h.log_eq, List.length_set.trans h.length_eq, ?_⟩
    intro other hmem
    rcases List.mem_or_eq_of_mem_set hmem with hmem | rfl
    · exact h.phase_eq other hmem
    · exact .inr rfl
  · cases hs

theorem Filled.run (h : Filled c o n s) (schedule : List Nat) : Filled c o n (s.run schedule) :=
  run_induction (P := Filled c o n) (fun _ _ _ h hs => h.step hs) h schedule

theorem Filled.threads_of_isDone (h : Filled c o n s) (hdone : s.isDone = true) :
    s.threads = List.replicate n (.returned (some o)) := by
  refine List.eq_replicate_iff.2 ⟨h.length_eq, fun phase hmem => ?_⟩
  rcases h.phase_eq phase hmem with rfl | rfl
  · cases isDone_iff.1 hdone _ hmem
  · rfl

/-- Without threads nothing happens. -/
theorem run_of_threads_eq_nil (hs : s.threads = []) (schedule : List Nat) :
    s.run schedule = s := by
  refine run_induction (P := (· = s)) ?_ rfl schedule
  rintro _ i t rfl ht
  obtain ⟨phase, hphase, -⟩ := step_eq_some_iff.1 ht
  rw [hs] at hphase
  cases hphase

end FirstUse.Config

/-- **The order of the turns does not matter**: under any schedule that ends with all threads done,
as many threads hold a pattern, and as many different ones, as if they ran one after the other, and
the cell and the announcements are the same. -/
theorem getAtOnce_eq_of_isDone (c : Cell) (n : Nat) (schedule : List Nat)
    (hdone : ((ofCell c n).run schedule).isDone = true) :
    let s := (ofCell c n).run schedule
    Store.getAtOnce c n =
      (.objects s.results.length s.results.eraseDups.length, s.cell, s.log) := by
  intro s
  cases n with
  | zero =>
    obtain ⟨expression, flags, compiled⟩ := c
    rw [getAtOnce_zero, show s = _ from run_of_threads_eq_nil rfl schedule]
    cases compiled <;> rfl
  | succ n =>
    rw [getAtOnce_succ]
    obtain ⟨expression, flags, compiled⟩ := c
    unfold Cell.get
    cases compiled with
    | some p =>
      have h : Filled ⟨expression, flags, some p⟩ ⟨0, p⟩ (n + 1) s :=
        (filled_ofCell expression flags p (n + 1)).run schedule
      obtain ⟨hresults, hdistinct⟩ := results_returned s n ⟨0, p⟩
      rw [← h.threads_of_isDone hdone] at hresults
      rw [hresults, hdistinct, List.length_replicate, h.cell_eq, h.log_eq]
    | none =>
      have h : Sound expression flags (n + 1) s := (sound_start expression flags _).run schedule
      cases hcompile : compile expression flags with
      | error f =>
        have hthreads : s.threads = List.replicate (n + 1) (.failed f) :=
          List.eq_replicate_iff.2 ⟨h.length_eq, fun phase hmem =>
            h.eq_failed hcompile hmem (isDone_iff.1 hdone phase hmem)⟩
        have hresults := results_failed s (n + 1) f
        rw [← hthreads] at hresults
        obtain ⟨hst, -, hlog⟩ := h.untouched hcompile
        rw [hresults, hlog, cell, hst, h.expression_eq, h.flags_eq]
        rfl
      | ok p =>
        obtain ⟨hall, hst, hlog⟩ := h.compiled_of_isDone hcompile n.succ_pos hdone
        have hthreads := List.eq_replicate_iff.2 ⟨h.length_eq, hall⟩
        obtain ⟨hresults, hdistinct⟩ := results_returned s n ⟨0, p⟩
        rw [← hthreads] at hresults
        rw [hresults, hdistinct, List.length_replicate, hlog, cell, hst, h.expression_eq,
          h.flags_eq]
        rfl

end CredentialCheck.Pattern
