import CredentialCheck.Pattern.FirstUse

/-!
# One compilation under concurrent first use

Any number of threads use a fresh cell, and take turns in any order. What holds at every moment is
`Config.Sound`: the thread that holds the lock is the one that is at a place under it, the cell is
empty or holds the one pattern that was compiled, and each phase fits what the cell holds. A step
keeps it (`Sound.step`), so every run does (`Sound.run`).

* `Sound.exists_step`: the threads never block each other.
* `work_step_lt`: each step leaves less to do, so every run can be brought to an end
  (`Sound.exists_isDone`).
* `concurrent_first_use` puts together what a run from a fresh cell comes to.
-/

namespace CredentialCheck.Pattern.FirstUse

/-! ## Phases -/

/-- Whether a thread in the phase holds the lock. -/
def Phase.holdsLock : Phase → Bool
  | .checking | .compiling | .announcing | .leaving | .failing _ => true
  | .looking | .waiting | .returned _ | .failed _ => false

/-- The greatest number of steps that a thread in the phase has before it. -/
def Phase.stepsLeft : Phase → Nat
  | .looking => 6
  | .waiting => 5
  | .checking => 4
  | .compiling => 3
  | .announcing => 2
  | .leaving | .failing _ => 1
  | .returned _ | .failed _ => 0

/-- What a phase says about the cell: `outcome` is what compiling comes to. -/
def Phase.Fits (outcome : Except Failure Compiled) (stored : Option Object) : Phase → Prop
  | .looking | .waiting | .checking => True
  | .compiling => stored = none
  | .announcing | .leaving => stored.isSome
  | .failing f | .failed f => outcome = .error f
  | .returned o => o = stored ∧ stored.isSome

theorem Phase.isDone_eq_false_of_holdsLock {phase : Phase} (h : phase.holdsLock = true) :
    phase.isDone = false := by
  cases phase <;> first | rfl | cases h

/-- A thread that does not hold the lock fits a cell that has just been filled. -/
theorem Phase.Fits.of_filled {outcome : Except Failure Compiled} {stored : Option Object}
    {phase : Phase} (h : phase.Fits outcome none) (hlock : phase.holdsLock = false) :
    phase.Fits outcome stored := by
  cases phase <;> simp_all [Phase.Fits, Phase.holdsLock]

namespace Config

variable {e : Value} {fl : Flags} {n : Nat} {s s' : Config} {i : Nat}

/-! ## Steps and runs -/

theorem step_eq_some_iff :
    s.step i = some s' ↔ ∃ phase, s.threads[i]? = some phase ∧ s.stepFrom i phase = some s' :=
  Option.bind_eq_some_iff

theorem run_cons (s : Config) (i : Nat) (schedule : List Nat) :
    s.run (i :: schedule) = ((s.step i).getD s).run schedule := rfl

/-- What every step keeps holds at the end of every run. -/
theorem run_induction {P : Config → Prop} (hstep : ∀ s i s', P s → s.step i = some s' → P s')
    (hs : P s) (schedule : List Nat) : P (s.run schedule) := by
  induction schedule generalizing s with
  | nil => exact hs
  | cons i schedule ih =>
    rw [run_cons]
    cases h : s.step i with
    | none => exact ih hs
    | some s' => exact ih (hstep s i s' hs h)

theorem isDone_iff : s.isDone = true ↔ ∀ phase ∈ s.threads, phase.isDone = true :=
  List.all_eq_true

/-! ## The invariant -/

/-- The phase of the thread that holds the lock. -/
def holderPhase (s : Config) : Option Phase := s.lock.bind (s.threads[·]?)

/-- What every configuration is like that a fresh cell with `n` threads leads to. -/
structure Sound (e : Value) (fl : Flags) (n : Nat) (s : Config) : Prop where
  expression_eq : s.expression = e
  flags_eq : s.flags = fl
  length_eq : s.threads.length = n
  lock_lt : ∀ i, s.lock = some i → i < n
  holdsLock_iff : ∀ (i : Nat) (phase : Phase), s.threads[i]? = some phase →
    (phase.holdsLock = true ↔ s.lock = some i)
  fits : ∀ (i : Nat) (phase : Phase), s.threads[i]? = some phase →
    phase.Fits (compile e fl) s.stored
  cell : s.stored = none ∧ s.stores = 0 ∨
    ∃ p, compile e fl = .ok p ∧ s.stored = some ⟨0, p⟩ ∧ s.stores = 1
  /-- The pattern has been announced, unless its announcement is about to be made. -/
  log_eq : s.log =
    if s.stored.isSome ∧ s.holderPhase ≠ some .announcing then [announcement e] else []

theorem sound_start (e : Value) (fl : Flags) (n : Nat) : Sound e fl n (start e fl n) where
  expression_eq := rfl
  flags_eq := rfl
  length_eq := List.length_replicate
  lock_lt := by intro i h; cases h
  holdsLock_iff := by
    intro i phase h
    obtain rfl := List.eq_of_mem_replicate (List.mem_of_getElem? h)
    simp [start, ofCell, Phase.holdsLock]
  fits := by
    intro i phase h
    obtain rfl := List.eq_of_mem_replicate (List.mem_of_getElem? h)
    trivial
  cell := .inl ⟨rfl, rfl⟩
  log_eq := rfl

/-- The turn of one thread keeps the invariant if the thread's own phase fits what it leaves behind
and the other threads cannot tell. -/
theorem Sound.of_turn (h : Sound e fl n s) (phase : Phase) (hi : i < s.threads.length)
    (hthreads : s'.threads = s.threads.set i phase) (hexpression : s'.expression = s.expression)
    (hflags : s'.flags = s.flags) (hlock : phase.holdsLock = true ↔ s'.lock = some i)
    (hother : ∀ j, j ≠ i → (s'.lock = some j ↔ s.lock = some j))
    (hself : phase.Fits (compile e fl) s'.stored)
    (hfits : ∀ (j : Nat) (other : Phase), j ≠ i → s.threads[j]? = some other →
      other.Fits (compile e fl) s'.stored)
    (hcell : s'.stored = none ∧ s'.stores = 0 ∨
      ∃ p, compile e fl = .ok p ∧ s'.stored = some ⟨0, p⟩ ∧ s'.stores = 1)
    (hlog : s'.log =
      if s'.stored.isSome ∧ s'.holderPhase ≠ some .announcing then [announcement e] else []) :
    Sound e fl n s' where
  expression_eq := hexpression.trans h.expression_eq
  flags_eq := hflags.trans h.flags_eq
  length_eq := by rw [hthreads, List.length_set, h.length_eq]
  lock_lt := by
    intro j hj
    by_cases hji : j = i
    · rw [hji, ← h.length_eq]
      exact hi
    · exact h.lock_lt j ((hother j hji).1 hj)
  holdsLock_iff := by
    intro j other hj
    rw [hthreads] at hj
    by_cases hji : j = i
    · subst hji
      rw [List.getElem?_set_self hi] at hj
      cases hj
      exact hlock
    · rw [List.getElem?_set_ne (Ne.symm hji)] at hj
      exact (h.holdsLock_iff j other hj).trans (hother j hji).symm
  fits := by
    intro j other hj
    rw [hthreads] at hj
    by_cases hji : j = i
    · subst hji
      rw [List.getElem?_set_self hi] at hj
      cases hj
      exact hself
    · rw [List.getElem?_set_ne (Ne.symm hji)] at hj
      exact hfits j other hji hj
  cell := hcell
  log_eq := hlog

/-! ## One step -/

/-- The lock's holder is seen in the phase that the step has put it in. -/
theorem holderPhase_of_lock (phase : Phase) (hi : i < s.threads.length) (hlock : s'.lock = some i)
    (hthreads : s'.threads = s.threads.set i phase) : s'.holderPhase = some phase := by
  rw [holderPhase, hlock, hthreads, Option.bind_some, List.getElem?_set_self hi]

/-- The turn of a thread without the lock does not concern the holder. -/
theorem holderPhase_move_of_ne (phase : Phase) (hne : s.lock ≠ some i) :
    (s.move i phase).holderPhase = s.holderPhase := by
  simp only [holderPhase, move]
  cases h : s.lock with
  | none => rfl
  | some j => exact List.getElem?_set_ne fun hij => hne (by rw [h, hij])

/-- A thread without the lock changes nothing but its own phase. -/
theorem Sound.of_move {phase : Phase} (h : Sound e fl n s) (hi : i < s.threads.length)
    (hne : s.lock ≠ some i) (hphase : phase.holdsLock = false)
    (hself : phase.Fits (compile e fl) s.stored) : Sound e fl n (s.move i phase) := by
  refine h.of_turn phase hi rfl rfl rfl ?_ (fun _ _ => Iff.rfl) hself
    (fun j other _ hj => h.fits j other hj) h.cell ?_
  · simpa [hphase, move] using hne
  · rw [holderPhase_move_of_ne phase hne]
    exact h.log_eq

/-- A thread takes the lock. -/
theorem Sound.of_acquire (h : Sound e fl n s) (hi : i < s.threads.length) (hfree : s.lock = none) :
    Sound e fl n { s.move i .checking with lock := some i } := by
  refine h.of_turn .checking hi rfl rfl rfl (by simp [Phase.holdsLock]) ?_ trivial
    (fun j other _ hj => h.fits j other hj) h.cell ?_
  · intro j hji
    simp [hfree, Ne.symm hji]
  · rw [holderPhase_of_lock (s := s) .checking hi rfl rfl]
    have hholder : s.holderPhase = none := by rw [holderPhase, hfree, Option.bind_none]
    simpa [hholder, move] using h.log_eq

/-- The holder of the lock takes its turn: it may fill an empty cell, announce the pattern, and
give the lock back. -/
theorem Sound.of_holder (h : Sound e fl n s) (phase : Phase) (hi : i < s.threads.length)
    (hheld : s.lock = some i) (hthreads : s'.threads = s.threads.set i phase)
    (hexpression : s'.expression = s.expression) (hflags : s'.flags = s.flags)
    (hlock : s'.lock = if phase.holdsLock then some i else none)
    (hself : phase.Fits (compile e fl) s'.stored)
    (hstored : s'.stored = s.stored ∨ s.stored = none)
    (hcell : s'.stored = none ∧ s'.stores = 0 ∨
      ∃ p, compile e fl = .ok p ∧ s'.stored = some ⟨0, p⟩ ∧ s'.stores = 1)
    (hlog : s'.log = if s'.stored.isSome ∧ phase ≠ .announcing then [announcement e] else []) :
    Sound e fl n s' := by
  refine h.of_turn phase hi hthreads hexpression hflags ?_ ?_ hself ?_ hcell ?_
  · rw [hlock]
    cases phase.holdsLock <;> simp
  · intro j hji
    rw [hlock, hheld]
    cases phase.holdsLock <;> simp [Ne.symm hji]
  · intro j other hji hj
    have hfits := h.fits j other hj
    rcases hstored with hst | hst
    · rwa [hst]
    · -- only the holder of the lock can know that the cell is empty
      rw [hst] at hfits
      refine hfits.of_filled (Bool.eq_false_iff.2 fun hb => hji ?_)
      exact (Option.some.inj (hheld.symm.trans ((h.holdsLock_iff j other hj).1 hb))).symm
  · rw [hlog]
    cases hb : phase.holdsLock with
    | true =>
      rw [hb, if_pos rfl] at hlock
      simp [holderPhase_of_lock phase hi hlock hthreads]
    | false =>
      rw [hb] at hlock
      have hholder : s'.holderPhase = none := by rw [holderPhase, hlock]; rfl
      have hphase : phase ≠ .announcing := by rintro rfl; cases hb
      simp [hholder, hphase]

/-- Before its turn, the holder of the lock knows what has been announced. -/
theorem Sound.log_of_holder {phase : Phase} (h : Sound e fl n s)
    (hi : s.threads[i]? = some phase) (hheld : s.lock = some i) :
    s.log = if s.stored.isSome ∧ phase ≠ .announcing then [announcement e] else [] := by
  have hholder : s.holderPhase = some phase := by rw [holderPhase, hheld, Option.bind_some, hi]
  simpa [hholder] using h.log_eq

/-- **A step keeps the invariant.** -/
theorem Sound.step (h : Sound e fl n s) (hs : s.step i = some s') : Sound e fl n s' := by
  obtain ⟨phase, hphase, hs⟩ := step_eq_some_iff.1 hs
  have hi : i < s.threads.length := (List.getElem?_eq_some_iff.1 hphase).1
  have hholds := h.holdsLock_iff i phase hphase
  have hfits := h.fits i phase hphase
  cases phase with
  | looking =>
    have hne : s.lock ≠ some i := fun hl => by cases hholds.2 hl
    simp only [stepFrom] at hs
    split at hs <;> cases hs
    · next o hst => exact h.of_move hi hne rfl ⟨hst.symm, by simp [hst]⟩
    · exact h.of_move hi hne rfl trivial
  | waiting =>
    simp only [stepFrom] at hs
    split at hs <;> cases hs
    next hfree => exact h.of_acquire hi hfree
  | checking =>
    have hheld : s.lock = some i := hholds.1 rfl
    have hlog := h.log_of_holder hphase hheld
    cases hs
    cases hst : s.stored with
    | none =>
      refine h.of_holder .compiling hi hheld rfl rfl rfl hheld hst (.inl rfl) h.cell ?_
      simpa [move, hst] using hlog
    | some o =>
      refine h.of_holder .leaving hi hheld rfl rfl rfl hheld ?_ (.inl rfl) h.cell ?_
      · simp [Phase.Fits, move, hst]
      · simpa [move, hst] using hlog
  | compiling =>
    have hheld : s.lock = some i := hholds.1 rfl
    have hlog := h.log_of_holder hphase hheld
    have hempty : s.stored = none := hfits
    have hstores : s.stores = 0 := by
      rcases h.cell with ⟨-, h0⟩ | ⟨p, -, hst, -⟩
      · exact h0
      · rw [hempty] at hst
        cases hst
    simp only [stepFrom, h.expression_eq, h.flags_eq] at hs
    split at hs <;> cases hs
    · next p hp =>
      refine h.of_holder .announcing hi hheld rfl rfl rfl hheld rfl (.inr hempty) ?_ ?_
      · exact .inr ⟨p, hp, by simp [hstores], by simp [hstores]⟩
      · simpa [move, hempty] using hlog
    · next f hf =>
      refine h.of_holder (.failing f) hi hheld rfl rfl rfl hheld hf (.inl rfl) h.cell ?_
      simpa [move, hempty] using hlog
  | announcing =>
    have hheld : s.lock = some i := hholds.1 rfl
    have hlog := h.log_of_holder hphase hheld
    have hfull : s.stored.isSome := hfits
    cases hs
    refine h.of_holder .leaving hi hheld rfl rfl rfl hheld hfull (.inl rfl) h.cell ?_
    simpa [move, hfull, h.expression_eq] using hlog
  | leaving =>
    have hheld : s.lock = some i := hholds.1 rfl
    have hlog := h.log_of_holder hphase hheld
    have hfull : s.stored.isSome := hfits
    cases hs
    refine h.of_holder (.returned s.stored) hi hheld rfl rfl rfl rfl ⟨rfl, hfull⟩ (.inl rfl)
      h.cell ?_
    simpa [move] using hlog
  | failing f =>
    have hheld : s.lock = some i := hholds.1 rfl
    have hlog := h.log_of_holder hphase hheld
    cases hs
    refine h.of_holder (.failed f) hi hheld rfl rfl rfl rfl hfits (.inl rfl) h.cell ?_
    simpa [move] using hlog
  | returned o => cases hs
  | failed f => cases hs

/-- **Every run keeps the invariant.** -/
theorem Sound.run (h : Sound e fl n s) (schedule : List Nat) : Sound e fl n (s.run schedule) :=
  run_induction (P := Sound e fl n) (fun _ _ _ h hs => h.step hs) h schedule

/-! ## Nobody waits for ever -/

/-- A thread that holds the lock can go on. -/
theorem exists_stepFrom_of_holdsLock {phase : Phase} (s : Config) (i : Nat)
    (hphase : phase.holdsLock = true) : ∃ s', s.stepFrom i phase = some s' := by
  cases phase with
  | checking | announcing | leaving | failing => exact ⟨_, rfl⟩
  | compiling =>
    simp only [stepFrom]
    cases compile s.expression s.flags with
    | ok p => exact ⟨_, rfl⟩
    | error f => exact ⟨_, rfl⟩
  | looking | waiting | returned | failed => cases hphase

/-- While the lock is free, every thread that is not done can go on. -/
theorem exists_stepFrom_of_free {phase : Phase} (i : Nat) (hfree : s.lock = none)
    (hdone : phase.isDone = false) : ∃ s', s.stepFrom i phase = some s' := by
  cases phase with
  | looking =>
    simp only [stepFrom]
    cases s.stored with
    | some o => exact ⟨_, rfl⟩
    | none => exact ⟨_, rfl⟩
  | waiting => exact ⟨{ s.move i .checking with lock := some i }, by simp only [stepFrom, hfree]⟩
  | checking | announcing | leaving | failing | compiling =>
    exact exists_stepFrom_of_holdsLock s i rfl
  | returned | failed => cases hdone

/-- **There is no deadlock**: unless all threads are done, one of them can go on. -/
theorem Sound.exists_step (h : Sound e fl n s) (hdone : s.isDone = false) :
    ∃ i s', s.step i = some s' := by
  cases hlock : s.lock with
  | some i =>
    have hi : i < s.threads.length := h.length_eq ▸ h.lock_lt i hlock
    have hphase : s.threads[i]? = some s.threads[i] := List.getElem?_eq_getElem hi
    obtain ⟨s', hs⟩ := exists_stepFrom_of_holdsLock s i ((h.holdsLock_iff i _ hphase).2 hlock)
    exact ⟨i, s', step_eq_some_iff.2 ⟨_, hphase, hs⟩⟩
  | none =>
    obtain ⟨phase, hmem, hphase⟩ := List.all_eq_false.1 hdone
    obtain ⟨i, hi⟩ := List.mem_iff_getElem?.1 hmem
    obtain ⟨s', hs⟩ := exists_stepFrom_of_free i hlock (Bool.eq_false_iff.2 hphase)
    exact ⟨i, s', step_eq_some_iff.2 ⟨phase, hi, hs⟩⟩

/-- When all threads are done, the lock is free. -/
theorem Sound.lock_eq_none (h : Sound e fl n s) (hdone : s.isDone = true) : s.lock = none := by
  cases hlock : s.lock with
  | none => rfl
  | some i =>
    have hi : i < s.threads.length := h.length_eq ▸ h.lock_lt i hlock
    have hholds := (h.holdsLock_iff i _ (List.getElem?_eq_getElem hi)).2 hlock
    have hnot := isDone_iff.1 hdone _ (List.getElem_mem hi)
    rw [Phase.isDone_eq_false_of_holdsLock hholds] at hnot
    cases hnot

/-! ## Every run can be brought to an end -/

/-- The greatest number of steps that threads in the phases have before them, together. -/
def stepsLeft (phases : List Phase) : Nat :=
  phases.foldr (fun phase rest => phase.stepsLeft + rest) 0

/-- The greatest number of steps that are left to all threads. -/
def work (s : Config) : Nat := stepsLeft s.threads

theorem stepsLeft_set {phases : List Phase} {old : Phase} (new : Phase)
    (hi : phases[i]? = some old) :
    stepsLeft (phases.set i new) + old.stepsLeft = stepsLeft phases + new.stepsLeft := by
  induction phases generalizing i with
  | nil => cases hi
  | cons phase phases ih =>
    cases i with
    | zero =>
      cases hi
      simp only [List.set_cons_zero, stepsLeft, List.foldr_cons]
      omega
    | succ i =>
      have hrest := ih hi
      simp only [stepsLeft] at hrest
      simp only [List.set_cons_succ, stepsLeft, List.foldr_cons]
      omega

/-- What a step does to the threads: one goes on to a phase with fewer steps before it. -/
theorem exists_threads_eq_set (hs : s.step i = some s') :
    ∃ old new, s.threads[i]? = some old ∧ s'.threads = s.threads.set i new ∧
      new.stepsLeft < old.stepsLeft := by
  obtain ⟨phase, hphase, hs⟩ := step_eq_some_iff.1 hs
  refine ⟨phase, ?_⟩
  cases phase with
  | looking =>
    simp only [stepFrom] at hs
    split at hs <;> cases hs <;> exact ⟨_, hphase, rfl, by simp [Phase.stepsLeft]⟩
  | waiting =>
    simp only [stepFrom] at hs
    split at hs <;> cases hs
    exact ⟨_, hphase, rfl, by simp [Phase.stepsLeft]⟩
  | checking =>
    cases hs
    exact ⟨_, hphase, rfl, by split <;> simp [Phase.stepsLeft]⟩
  | compiling =>
    simp only [stepFrom] at hs
    split at hs <;> cases hs <;> exact ⟨_, hphase, rfl, by simp [Phase.stepsLeft]⟩
  | announcing | leaving | failing =>
    cases hs
    exact ⟨_, hphase, rfl, by simp [Phase.stepsLeft]⟩
  | returned | failed => cases hs

/-- **Each step leaves less to do.** -/
theorem work_step_lt (hs : s.step i = some s') : s'.work < s.work := by
  obtain ⟨old, new, hi, hthreads, hlt⟩ := exists_threads_eq_set hs
  have hsum := stepsLeft_set new hi
  simp only [work, hthreads]
  omega

theorem Sound.exists_isDone (h : Sound e fl n s) : ∃ rest, (s.run rest).isDone = true := by
  induction hw : s.work using Nat.strongRecOn generalizing s with
  | ind w ih =>
    cases hdone : s.isDone with
    | true => exact ⟨[], hdone⟩
    | false =>
      obtain ⟨i, s', hs⟩ := h.exists_step hdone
      obtain ⟨rest, hrest⟩ := ih s'.work (hw ▸ work_step_lt hs) (h.step hs) rfl
      exact ⟨i :: rest, by rw [run_cons, hs]; exact hrest⟩

/-! ## What a run from a fresh cell comes to -/

theorem Sound.fits_of_mem {phase : Phase} (h : Sound e fl n s) (hmem : phase ∈ s.threads) :
    phase.Fits (compile e fl) s.stored := by
  obtain ⟨i, hi⟩ := List.mem_iff_getElem?.1 hmem
  exact h.fits i phase hi

/-- An expression that cannot be compiled leaves the cell and the log as they were. -/
theorem Sound.untouched {f : Failure} (h : Sound e fl n s) (hf : compile e fl = .error f) :
    s.stored = none ∧ s.stores = 0 ∧ s.log = [] := by
  rcases h.cell with ⟨hst, hstores⟩ | ⟨p, hp, -⟩
  · exact ⟨hst, hstores, by simpa [hst] using h.log_eq⟩
  · rw [hf] at hp
    cases hp

/-- A thread that is done has what compiling came to: the failure, or the one object that was
made. -/
theorem Sound.eq_of_isDone {phase : Phase} (h : Sound e fl n s) (hmem : phase ∈ s.threads)
    (hdone : phase.isDone = true) :
    (∃ f, compile e fl = .error f ∧ phase = .failed f) ∨
      ∃ p, compile e fl = .ok p ∧ phase = .returned (some ⟨0, p⟩) := by
  have hfits := h.fits_of_mem hmem
  cases phase with
  | failed f => exact .inl ⟨f, hfits, rfl⟩
  | returned o =>
    obtain ⟨rfl, hfull⟩ := hfits
    rcases h.cell with ⟨hst, -⟩ | ⟨p, hp, hst, -⟩
    · rw [hst] at hfull
      cases hfull
    · exact .inr ⟨p, hp, by rw [hst]⟩
  | looking | waiting | checking | compiling | announcing | leaving | failing => cases hdone

/-- A thread that is done has failed if the expression cannot be compiled. -/
theorem Sound.eq_failed {phase : Phase} {f : Failure} (h : Sound e fl n s)
    (hf : compile e fl = .error f) (hmem : phase ∈ s.threads) (hdone : phase.isDone = true) :
    phase = .failed f := by
  obtain ⟨f', hf', rfl⟩ | ⟨p, hp, -⟩ := h.eq_of_isDone hmem hdone
  · cases hf.symm.trans hf'
    rfl
  · cases hf.symm.trans hp

/-- A thread that is done holds the one object if the expression can be compiled. -/
theorem Sound.eq_returned {phase : Phase} {p : Compiled} (h : Sound e fl n s)
    (hp : compile e fl = .ok p) (hmem : phase ∈ s.threads) (hdone : phase.isDone = true) :
    phase = .returned (some ⟨0, p⟩) := by
  obtain ⟨f, hf, -⟩ | ⟨p', hp', rfl⟩ := h.eq_of_isDone hmem hdone
  · cases hp.symm.trans hf
  · cases hp.symm.trans hp'
    rfl

/-- A thread that has returned the one object has left it in the cell. -/
theorem Sound.stored_of_returned {o : Object} (h : Sound e fl n s)
    (hmem : .returned (some o) ∈ s.threads) : s.stored = some o ∧ s.stores = 1 := by
  obtain ⟨hst, -⟩ : some o = s.stored ∧ s.stored.isSome := h.fits_of_mem hmem
  rcases h.cell with ⟨hnone, -⟩ | ⟨p, -, -, hstores⟩
  · rw [hnone] at hst
    cases hst
  · exact ⟨hst.symm, hstores⟩

/-- Some threads, all done, whose expression can be compiled: all hold the one object, and so does
the cell, and it has been announced. -/
theorem Sound.compiled_of_isDone {p : Compiled} (h : Sound e fl n s) (hp : compile e fl = .ok p)
    (hn : 0 < n) (hdone : s.isDone = true) :
    (∀ phase ∈ s.threads, phase = .returned (some ⟨0, p⟩)) ∧ s.stored = some ⟨0, p⟩ ∧
      s.log = [announcement e] := by
  have hall : ∀ phase ∈ s.threads, phase = .returned (some ⟨0, p⟩) := fun phase hmem =>
    h.eq_returned hp hmem (isDone_iff.1 hdone phase hmem)
  obtain ⟨phase, hmem⟩ := List.exists_mem_of_length_pos (h.length_eq ▸ hn)
  have hst := (h.stored_of_returned (hall phase hmem ▸ hmem)).1
  have hholder : s.holderPhase = none := by
    rw [holderPhase, h.lock_eq_none hdone, Option.bind_none]
  refine ⟨hall, hst, ?_⟩
  rw [h.log_eq, hst, hholder, if_pos ⟨rfl, nofun⟩]

/-- **Concurrent first use of a cell.** However `n` threads that use a fresh cell take turns, a
pattern is stored and announced at most once; all threads that return hold the same object; if the
expression cannot be compiled, each thread that is done has failed with that failure, and the cell
and the log are untouched; if it can, each thread that is done holds the one object that the cell
holds, and when all are done it has been announced; some thread can go on until all are done, which
they can always come to be, and then the lock is free. -/
theorem concurrent_first_use (e : Value) (fl : Flags) (n : Nat) (schedule : List Nat) :
    let s := (start e fl n).run schedule
    (s.stores ≤ 1 ∧ (s.log = [] ∨ s.log = [announcement e])) ∧
      (∀ o o', .returned o ∈ s.threads → .returned o' ∈ s.threads → o = o' ∧ o ≠ none) ∧
      (∀ f, compile e fl = .error f →
        (∀ phase ∈ s.threads, phase.isDone = true → phase = .failed f) ∧
          s.stored = none ∧ s.stores = 0 ∧ s.log = []) ∧
      (∀ p, compile e fl = .ok p →
        (∀ phase ∈ s.threads, phase.isDone = true →
          phase = .returned (some ⟨0, p⟩) ∧ s.stored = some ⟨0, p⟩ ∧ s.stores = 1) ∧
          (0 < n → s.isDone = true → s.log = [announcement e])) ∧
      (s.isDone = false → ∃ i s', s.step i = some s') ∧
      (s.isDone = true → s.lock = none) ∧ ∃ rest, (s.run rest).isDone = true := by
  intro s
  have h : Sound e fl n s := (sound_start e fl n).run schedule
  refine ⟨⟨?_, ?_⟩, ?_, ?_, ?_, h.exists_step, h.lock_eq_none, h.exists_isDone⟩
  · rcases h.cell with ⟨-, h0⟩ | ⟨p, -, -, h1⟩ <;> omega
  · rw [h.log_eq]
    split
    · exact .inr rfl
    · exact .inl rfl
  · intro o o' ho ho'
    obtain ⟨f, -, hf⟩ | ⟨p, hp, hphase⟩ := h.eq_of_isDone ho rfl
    · cases hf
    · obtain ⟨f, -, hf⟩ | ⟨p', hp', hphase'⟩ := h.eq_of_isDone ho' rfl
      · cases hf
      · cases hphase
        cases hphase'
        cases hp.symm.trans hp'
        exact ⟨rfl, by simp⟩
  · intro f hf
    exact ⟨fun phase hmem hdone => h.eq_failed hf hmem hdone, h.untouched hf⟩
  · intro p hp
    refine ⟨fun phase hmem hdone => ?_, fun hn hdone => (h.compiled_of_isDone hp hn hdone).2.2⟩
    obtain rfl := h.eq_returned hp hmem hdone
    exact ⟨rfl, h.stored_of_returned hmem⟩

end Config

end CredentialCheck.Pattern.FirstUse
