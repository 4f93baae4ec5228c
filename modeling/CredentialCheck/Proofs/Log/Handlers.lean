import CredentialCheck.Log.Session
import Mathlib.Data.List.Nodup

/-!
# Handlers on the root over a whole run

The host and this library share the root. Whatever happens to the log, in any order, the host's
handlers are there as the host has left them, and beside them this library's handlers as its last
call has left them. A call of `setup` that fails has handlers installed that are not on the root;
the next call finds and forgets them.

* `Event` is what can happen, `Session.after` what comes of it.
* `Account` says which handlers are due on the root, without looking at it.
* `Kept` relates the two; an event keeps it (`Kept.after`).
* `handlers_follow` is the statement about whole runs.
-/

namespace CredentialCheck.Log

/-! ## Giving handlers up -/

theorem release_fst (trouble : Trouble) (r : Root) (hs : List Handler) :
    (Root.release trouble r hs).1 = { r with handlers := r.handlers.diff hs } := by
  induction hs generalizing r with
  | nil => rfl
  | cons h hs ih =>
    rw [Root.release, ih, List.diff_cons]
    rfl

theorem shutdown_fst (trouble : Trouble) (r : Root) :
    (r.shutdown trouble).1 =
      { r with handlers := r.handlers.diff r.installed.reverse, installed := [] } :=
  release_fst trouble { r with installed := [] } r.installed.reverse

/-- A second call finds nothing to give up. -/
theorem shutdown_of_installed_eq_nil (trouble : Trouble) {r : Root} (h : r.installed = []) :
    r.shutdown trouble = (r, []) := by
  obtain ⟨handlers, installed, level, next⟩ := r
  cases h
  rfl

/-! ## Setting up -/

/-- The sink for the log file, if there is to be one and it can be opened. -/
def logSink? (fs : FileSystem) (logFile : Value) : Option Sink :=
  match Root.logPath? logFile with
  | .ok (some path) =>
    (fs.openForAppend path).toOption.map fun opened => .ofLogFile fs.directory path opened.1
  | _ => none

/-- There is to be no log file, or it can be opened. -/
def CanOpen (fs : FileSystem) (logFile : Value) : Prop :=
  match Root.logPath? logFile with
  | .ok (some path) => ∃ opened, fs.openForAppend path = .ok opened
  | .ok none => True
  | .error _ => False

/-- The handlers of a log that is set up: one for the stream, and behind it one for the log file if
there is one. `next` is the serial number of the first. -/
def handlersFor (next : Nat) (sink? : Option Sink) : List Handler :=
  ⟨next, .stream⟩ :: (sink?.map fun sink => ⟨next + 1, sink⟩).toList

theorem nodup_handlersFor (next : Nat) (sink? : Option Sink) :
    (handlersFor next sink?).Nodup := by
  cases sink? <;> simp [handlersFor]

/-- A log file is asked for by anything but what stands for none. -/
theorem isSome_of_logPath? {logFile : Value} {path? : Option Spelling}
    (h : Root.logPath? logFile = .ok path?) : path?.isSome = logFile.isTruthy := by
  unfold Root.logPath? at h
  split at h
  · next t =>
    cases h
    rw [Value.isTruthy]
    cases t.isEmpty <;> rfl
  · next bs =>
    cases h
    rw [Value.isTruthy]
    cases bs.isEmpty <;> rfl
  · split at h
    · cases h
    · next hfalse =>
      cases h
      simpa using hfalse

/-- Handlers are installed without a change to the root's own. Those of a log file that cannot be
opened are missing. -/
theorem installAll_cases (r : Root) (fs : FileSystem) (logFile : Value) (hr : r.installed = []) :
    ∃ result root files, r.installAll fs logFile = (result, root, files) ∧
      root.handlers = r.handlers ∧ root.level = r.level ∧ r.next < root.next ∧
      (∀ h ∈ root.installed, r.next ≤ h.serial ∧ h.serial < root.next) ∧
      (result = .ok () → root.installed = handlersFor r.next (logSink? fs logFile) ∧
        (logSink? fs logFile).isSome = logFile.isTruthy) := by
  have hstream (h : Handler) (hh : h ∈ (r.install .stream).installed) :
      r.next ≤ h.serial ∧ h.serial < (r.install .stream).next := by
    rw [Root.install, hr, List.nil_append, List.mem_singleton] at hh
    rw [hh]
    exact ⟨Nat.le_refl _, Nat.lt_succ_self _⟩
  unfold Root.installAll logSink?
  cases hpath : Root.logPath? logFile with
  | error f => exact ⟨_, _, _, rfl, rfl, rfl, Nat.lt_succ_self _, hstream, fun h => nomatch h⟩
  | ok path? =>
    have htruthy := isSome_of_logPath? hpath
    cases path? with
    | none =>
      refine ⟨_, _, _, rfl, rfl, rfl, Nat.lt_succ_self _, hstream, fun _ => ⟨?_, htruthy⟩⟩
      rw [Root.install, hr]
      rfl
    | some path =>
      cases hopen : fs.openForAppend path with
      | error f =>
        simp only [hopen]
        exact ⟨_, _, _, rfl, rfl, rfl, Nat.lt_succ_self _, hstream, fun h => nomatch h⟩
      | ok opened =>
        simp only [hopen]
        have hnext : r.next < r.next + 1 + 1 := by omega
        refine ⟨_, _, _, rfl, rfl, rfl, hnext, fun h hh => ?_, fun _ => ⟨?_, htruthy⟩⟩
        · rcases List.mem_append.1 hh with hh | hh
          · exact ⟨(hstream h hh).1, Nat.lt_succ_of_lt (hstream h hh).2⟩
          · rw [List.mem_singleton.1 hh]
            exact ⟨Nat.le_succ _, Nat.lt_succ_self _⟩
        · simp only [Root.install, hr]
          rfl

/-- What setting up comes to: a failure leaves the root as shutting down does, but for handlers that
are installed and not attached; otherwise the new handlers stand behind those left. -/
theorem setup_cases (r : Root) (fs : FileSystem) (trouble : Trouble) (level logFile : Value) :
    ∃ result root files, r.setup fs trouble level logFile = (result, root, files) ∧
      r.next < root.next ∧ (∀ h ∈ root.installed, r.next ≤ h.serial ∧ h.serial < root.next) ∧
      ((∃ f, result = .error f) ∧ root.handlers = (r.shutdown trouble).1.handlers ∧
          root.level = r.level ∨
        result = .ok () ∧ root.installed = handlersFor r.next (logSink? fs logFile) ∧
          (logSink? fs logFile).isSome = logFile.isTruthy ∧
          root.handlers = (r.shutdown trouble).1.handlers ++ root.installed ∧
          Level.ofValue level = .ok root.level) := by
  have hquiet := shutdown_fst trouble r
  obtain ⟨result, root, files, hinstall, hhandlers, hlevel, hnext, hserial, hinstalled⟩ :=
    installAll_cases (r.shutdown trouble).1 fs logFile (by rw [hquiet])
  have hr : (r.shutdown trouble).1.next = r.next ∧ (r.shutdown trouble).1.level = r.level := by
    rw [hquiet]
    exact ⟨rfl, rfl⟩
  rw [hr.1] at hnext hserial hinstalled
  rw [hr.2] at hlevel
  unfold Root.setup
  rw [hinstall]
  cases result with
  | error f => exact ⟨_, _, _, rfl, hnext, hserial, .inl ⟨⟨f, rfl⟩, hhandlers, hlevel⟩⟩
  | ok u =>
    cases hl : Level.ofValue level with
    | error f => exact ⟨_, _, _, rfl, hnext, hserial, .inl ⟨⟨_, rfl⟩, hhandlers, hlevel⟩⟩
    | ok l =>
      refine ⟨_, _, _, rfl, hnext, hserial,
        .inr ⟨rfl, (hinstalled rfl).1, (hinstalled rfl).2, ?_, rfl⟩⟩
      rw [hhandlers]

/-- **The log can be set up** if its file can be opened and the level is one, whatever stands on the
root. -/
theorem setup_fst_eq_ok_iff (r : Root) (fs : FileSystem) (trouble : Trouble)
    (level logFile : Value) : (r.setup fs trouble level logFile).1 = .ok () ↔
      CanOpen fs logFile ∧ ∃ l, Level.ofValue level = .ok l := by
  unfold Root.setup Root.installAll CanOpen
  cases Root.logPath? logFile with
  | error f => simp
  | ok path? =>
    cases path? with
    | none => cases Level.ofValue level <;> simp
    | some path =>
      cases hopen : fs.openForAppend path with
      | error f => simp [hopen]
      | ok opened => cases Level.ofValue level <;> simp [hopen]

/-! ## Events -/

/-- Something that happens to the log. -/
inductive Event
  /-- This library sets the log up. -/
  | setup (level logFile : Value) (trouble : Trouble)
  /-- This library shuts the log down. -/
  | shutdown (trouble : Trouble)
  /-- The host makes a handler and attaches it. -/
  | attach (sink : Sink)
  /-- The host attaches a handler of its own that it has made before. -/
  | reattach (index : Nat)
  /-- The host detaches a handler of its own. -/
  | detach (index : Nat)
  /-- A record is logged. -/
  | record (logger : String) (level : Level) (template : Value) (values : List Value)
  /-- The files change by some other hand. -/
  | files (files : FileSystem)

/-- The root with a handler that exists already; one that is there stays where it is. -/
def Root.reattach (r : Root) (h : Handler) : Root :=
  if h ∈ r.handlers then r else { r with handlers := r.handlers ++ [h] }

/-- The log after an event, when `made` are the handlers that the host has made. -/
def Session.after (s : Session) (made : List Handler) : Event → Session
  | .setup level logFile trouble =>
    let (_, root, files) := s.root.setup s.files trouble level logFile
    { s with root, files }
  | .shutdown trouble => { s with root := (s.root.shutdown trouble).1 }
  | .attach sink => { s with root := s.root.attach sink }
  | .reattach index =>
    match made[index]? with
    | some h => { s with root := s.root.reattach h }
    | none => s
  | .detach index =>
    match made[index]? with
    | some h => { s with root := s.root.detach h }
    | none => s
  | .record logger level template values => (s.record logger level template values).2
  | .files files => { s with files }

/-- Which handlers are due on the root, by what has been done to it. -/
structure Account where
  /-- The handlers that the host has made, whether they are on the root or not. -/
  made : List Handler
  /-- The host's handlers on the root, in its order. -/
  host : List Handler
  /-- This library's handlers on the root: those of its last call. -/
  own : List Handler

/-- Nothing has been done yet. -/
def Account.empty : Account := ⟨[], [], []⟩

/-- The account after an event that finds the log as `s`. -/
def Account.after (a : Account) (s : Session) : Event → Account
  | .setup level logFile trouble =>
    match (s.root.setup s.files trouble level logFile).1 with
    | .ok () => { a with own := handlersFor s.root.next (logSink? s.files logFile) }
    | .error _ => { a with own := [] }
  | .shutdown _ => { a with own := [] }
  | .attach sink =>
    { a with made := a.made ++ [⟨s.root.next, sink⟩], host := a.host ++ [⟨s.root.next, sink⟩] }
  | .reattach index =>
    match a.made[index]? with
    | some h => if h ∈ a.host then a else { a with host := a.host ++ [h] }
    | none => a
  | .detach index =>
    match a.made[index]? with
    | some h => { a with host := a.host.erase h }
    | none => a
  | .record .. => a
  | .files _ => a

/-- The log and the account after events, one by one. -/
def follow (s : Session) (a : Account) : List Event → Session × Account
  | [] => (s, a)
  | event :: events => follow (s.after a.made event) (a.after s event) events

/-! ## Root and account -/

/-- The root is as the account says: the host's handlers in their order, this library's in theirs,
and nothing else, each once. -/
structure Kept (s : Session) (a : Account) : Prop where
  nodup : s.root.handlers.Nodup
  host_eq : s.root.handlers.filter (· ∈ a.host) = a.host
  own_eq : s.root.handlers.filter (· ∉ a.host) = a.own
  installed : ∀ h ∈ a.own, h ∈ s.root.installed
  made : ∀ h ∈ a.host, h ∈ a.made
  apart : ∀ h ∈ a.made, h ∉ s.root.installed
  serial_lt : ∀ h, h ∈ s.root.handlers ∨ h ∈ s.root.installed ∨ h ∈ a.made → h.serial < s.root.next

variable {s : Session} {a : Account}

/-- What has to be seen to when this library's handlers stand behind the host's. -/
theorem kept_of_append (hhandlers : s.root.handlers = a.host ++ a.own)
    (hnodup : (a.host ++ a.own).Nodup) (hinstalled : ∀ h ∈ a.own, h ∈ s.root.installed)
    (hmade : ∀ h ∈ a.host, h ∈ a.made) (hapart : ∀ h ∈ a.made, h ∉ s.root.installed)
    (hserial : ∀ h, h ∈ s.root.installed ∨ h ∈ a.made → h.serial < s.root.next) : Kept s a := by
  have hnew : ∀ h ∈ a.own, h ∉ a.host := fun h hown hhost =>
    hapart h (hmade h hhost) (hinstalled h hown)
  refine ⟨hhandlers ▸ hnodup, ?_, ?_, hinstalled, hmade, hapart, fun h hh => ?_⟩
  · have hhost : a.host.filter (· ∈ a.host) = a.host := List.filter_eq_self.2 (by simp)
    have hown : a.own.filter (· ∈ a.host) = [] := List.filter_eq_nil_iff.2 (by simpa using hnew)
    rw [hhandlers, List.filter_append, hhost, hown, List.append_nil]
  · have hhost : a.host.filter (· ∉ a.host) = [] := List.filter_eq_nil_iff.2 (by simp)
    have hown : a.own.filter (· ∉ a.host) = a.own := List.filter_eq_self.2 (by simpa using hnew)
    rw [hhandlers, List.filter_append, hhost, hown, List.nil_append]
  · rcases hh with hh | hh
    · rw [hhandlers, List.mem_append] at hh
      rcases hh with hh | hh
      · exact hserial h (.inr (hmade h hh))
      · exact hserial h (.inl (hinstalled h hh))
    · exact hserial h hh

theorem kept_fresh (files : FileSystem) (stamp : String) :
    Kept ⟨.fresh, files, stamp⟩ .empty := by
  refine kept_of_append rfl List.nodup_nil ?_ ?_ ?_ fun h hh => ?_
  · exact fun _ h => absurd h List.not_mem_nil
  · exact fun _ h => absurd h List.not_mem_nil
  · exact fun _ h => absurd h List.not_mem_nil
  · rcases hh with hh | hh <;> exact absurd hh List.not_mem_nil

theorem Kept.mem_own (hk : Kept s a) {h : Handler} (hmem : h ∈ s.root.handlers)
    (hhost : h ∉ a.host) : h ∈ a.own := by
  rw [← hk.own_eq]
  exact List.mem_filter.2 ⟨hmem, decide_eq_true hhost⟩

/-- Of the handlers that the host has made, its own on the root are those that are there. -/
theorem Kept.mem_host_iff (hk : Kept s a) {h : Handler} (hmade : h ∈ a.made) :
    h ∈ a.host ↔ h ∈ s.root.handlers := by
  constructor
  · intro hhost
    rw [← hk.host_eq] at hhost
    exact (List.mem_filter.1 hhost).1
  · intro hmem
    by_contra hhost
    exact hk.apart h hmade (hk.installed h (hk.mem_own hmem hhost))

theorem Kept.nodup_host (hk : Kept s a) : a.host.Nodup := by
  rw [← hk.host_eq]
  exact hk.nodup.filter _

/-- Without the handlers that are installed, the host's are left. -/
theorem Kept.shutdown_handlers (hk : Kept s a) (trouble : Trouble) :
    (s.root.shutdown trouble).1.handlers = a.host := by
  have hfilter : s.root.handlers.filter (· ∉ s.root.installed.reverse) =
      s.root.handlers.filter (· ∈ a.host) := by
    refine List.filter_congr fun h hmem => ?_
    simp only [List.mem_reverse, decide_eq_decide]
    by_cases hhost : h ∈ a.host
    · simp only [hhost, iff_true]
      exact hk.apart h (hk.made h hhost)
    · simp only [hhost, iff_false, not_not]
      exact hk.installed h (hk.mem_own hmem hhost)
  rw [shutdown_fst, hk.nodup.sdiff_eq_filter, hfilter, hk.host_eq]

/-! ## Calls of this library -/

theorem Kept.shutdown (hk : Kept s a) (trouble : Trouble) :
    Kept { s with root := (s.root.shutdown trouble).1 } { a with own := [] } := by
  have hhandlers := hk.shutdown_handlers trouble
  rw [shutdown_fst] at hhandlers ⊢
  refine kept_of_append ?_ ?_ ?_ hk.made ?_ fun h hh => ?_
  · rw [List.append_nil]
    exact hhandlers
  · rw [List.append_nil]
    exact hk.nodup_host
  · exact fun _ h => absurd h List.not_mem_nil
  · exact fun _ _ => List.not_mem_nil
  · exact hk.serial_lt h (.inr (.inr (hh.resolve_left List.not_mem_nil)))

theorem Kept.setup (hk : Kept s a) (level logFile : Value) (trouble : Trouble) :
    Kept (s.after a.made (.setup level logFile trouble))
      (a.after s (.setup level logFile trouble)) := by
  obtain ⟨result, root, files, hsetup, hnext, hserial, hcases⟩ :=
    setup_cases s.root s.files trouble level logFile
  rw [hk.shutdown_handlers] at hcases
  have hmade (h : Handler) (hh : h ∈ a.made) : h.serial < s.root.next :=
    hk.serial_lt h (.inr (.inr hh))
  have hapart (h : Handler) (hh : h ∈ a.made) : h ∉ root.installed := fun hi =>
    absurd (hserial h hi).1 (Nat.not_le.2 (hmade h hh))
  have hlt (h : Handler) (hh : h ∈ root.installed ∨ h ∈ a.made) : h.serial < root.next := by
    rcases hh with hh | hh
    · exact (hserial h hh).2
    · exact Nat.lt_trans (hmade h hh) hnext
  simp only [Session.after, Account.after, hsetup]
  rcases hcases with ⟨⟨f, rfl⟩, hhandlers, -⟩ | ⟨rfl, hinstalled, -, hhandlers, -⟩
  · refine kept_of_append ?_ ?_ ?_ hk.made hapart hlt
    · rw [List.append_nil]
      exact hhandlers
    · rw [List.append_nil]
      exact hk.nodup_host
    · exact fun _ h => absurd h List.not_mem_nil
  · rw [hinstalled] at hhandlers
    refine kept_of_append hhandlers ?_ (fun h hh => hinstalled ▸ hh) hk.made hapart hlt
    refine List.nodup_append.2 ⟨hk.nodup_host, nodup_handlersFor _ _, fun x hx y hy heq => ?_⟩
    rw [← hinstalled] at hy
    exact hapart x (hk.made x hx) (heq ▸ hy)

/-! ## Steps of the host -/

/-- The host puts a handler behind all others. -/
theorem Kept.append (hk : Kept s a) {h : Handler} {made : List Handler} {next : Nat}
    (hnew : h ∉ s.root.handlers) (hi : h ∉ s.root.installed)
    (hmade : ∀ x, x ∈ made ↔ x ∈ a.made ∨ x = h) (hnext : s.root.next ≤ next)
    (hserial : h.serial < next) :
    Kept { s with root := { s.root with handlers := s.root.handlers ++ [h], next } }
      { a with made, host := a.host ++ [h] } := by
  have hsame (x : Handler) (hx : x ∈ s.root.handlers) : x ∈ a.host ++ [h] ↔ x ∈ a.host := by
    have hne : x ≠ h := fun heq => hnew (heq ▸ hx)
    simp [hne]
  refine ⟨?_, ?_, ?_, hk.installed, ?_, ?_, ?_⟩
  · refine List.nodup_append.2 ⟨hk.nodup, List.nodup_singleton h, fun x hx y hy heq => ?_⟩
    rw [heq, List.mem_singleton.1 hy] at hx
    exact hnew hx
  · rw [List.filter_append, List.filter_congr fun x hx => decide_eq_decide.2 (hsame x hx),
      hk.host_eq]
    simp
  · rw [List.filter_append,
      List.filter_congr fun x hx => decide_eq_decide.2 (not_congr (hsame x hx)), hk.own_eq]
    simp
  · intro x hx
    rcases List.mem_append.1 hx with hx | hx
    · exact (hmade x).2 (.inl (hk.made x hx))
    · exact (hmade x).2 (.inr (List.mem_singleton.1 hx))
  · intro x hx
    rcases (hmade x).1 hx with hx | rfl
    · exact hk.apart x hx
    · exact hi
  · intro x hx
    have hold : x = h ∨ x.serial < s.root.next := by
      simp only [List.mem_append, List.mem_singleton, hmade] at hx
      rcases hx with (hx | hx) | hx | hx | hx
      · exact .inr (hk.serial_lt x (.inl hx))
      · exact .inl hx
      · exact .inr (hk.serial_lt x (.inr (.inl hx)))
      · exact .inr (hk.serial_lt x (.inr (.inr hx)))
      · exact .inl hx
    rcases hold with rfl | hx
    · exact hserial
    · exact Nat.lt_of_lt_of_le hx hnext

theorem Kept.attach (hk : Kept s a) (sink : Sink) :
    Kept (s.after a.made (.attach sink)) (a.after s (.attach sink)) := by
  have hfresh (P : Handler → Prop) (h : ∀ x, P x → x.serial < s.root.next) :
      ¬ P ⟨s.root.next, sink⟩ := fun hx => Nat.lt_irrefl _ (h _ hx)
  refine hk.append (hfresh _ fun x hx => hk.serial_lt x (.inl hx))
    (hfresh _ fun x hx => hk.serial_lt x (.inr (.inl hx))) (fun x => ?_) (Nat.le_succ _)
    (Nat.lt_succ_self _)
  rw [List.mem_append, List.mem_singleton]

theorem Kept.reattach (hk : Kept s a) (index : Nat) :
    Kept (s.after a.made (.reattach index)) (a.after s (.reattach index)) := by
  simp only [Session.after, Account.after]
  cases hget : a.made[index]? with
  | none => exact hk
  | some h =>
    have hmade := List.mem_of_getElem? hget
    by_cases hhost : h ∈ a.host
    · simp only [Root.reattach, if_pos hhost, if_pos ((hk.mem_host_iff hmade).1 hhost)]
      exact hk
    · have hnew : h ∉ s.root.handlers := fun hh => hhost ((hk.mem_host_iff hmade).2 hh)
      simp only [Root.reattach, if_neg hhost, if_neg hnew]
      refine hk.append hnew (hk.apart h hmade) (fun x => ?_) (Nat.le_refl _)
        (hk.serial_lt h (.inr (.inr hmade)))
      exact ⟨.inl, fun hx => hx.elim id fun heq => heq ▸ hmade⟩

theorem Kept.detach (hk : Kept s a) (index : Nat) :
    Kept (s.after a.made (.detach index)) (a.after s (.detach index)) := by
  simp only [Session.after, Account.after]
  cases hget : a.made[index]? with
  | none => exact hk
  | some h =>
    have hmade := List.mem_of_getElem? hget
    simp only [Root.detach]
    refine ⟨hk.nodup.erase h, ?_, ?_, hk.installed, ?_, hk.apart, ?_⟩
    · rw [hk.nodup.erase_eq_filter, hk.nodup_host.erase_eq_filter, List.filter_filter]
      conv_rhs => rw [← hk.host_eq, List.filter_filter]
      refine List.filter_congr fun x _ => ?_
      by_cases hx : x = h <;> simp [hx, Bool.and_comm]
    · rw [hk.nodup.erase_eq_filter, List.filter_filter, ← hk.own_eq]
      refine List.filter_congr fun x hmem => ?_
      by_cases hx : x = h
      · subst hx
        simp [(hk.mem_host_iff hmade).2 hmem]
      · simp [hx, hk.nodup_host.mem_erase_iff]
    · exact fun x hx => hk.made x (List.mem_of_mem_erase hx)
    · exact fun x hx => hk.serial_lt x (hx.imp_left List.mem_of_mem_erase)

/-! ## Runs -/

theorem record_root (s : Session) (logger : String) (level : Level) (template : Value)
    (values : List Value) : (s.record logger level template values).2.root = s.root := by
  unfold Session.record
  split
  · split <;> rfl
  · rfl

/-- Whatever happens, root and account keep in step. -/
theorem Kept.after (hk : Kept s a) (event : Event) :
    Kept (s.after a.made event) (a.after s event) := by
  cases event with
  | setup level logFile trouble => exact hk.setup level logFile trouble
  | shutdown trouble => exact hk.shutdown trouble
  | attach sink => exact hk.attach sink
  | reattach index => exact hk.reattach index
  | detach index => exact hk.detach index
  | record logger level template values =>
    have hroot := record_root s logger level template values
    obtain ⟨nodup, host_eq, own_eq, installed, made, apart, serial_lt⟩ := hk
    rw [← hroot] at nodup host_eq own_eq installed apart serial_lt
    exact ⟨nodup, host_eq, own_eq, installed, made, apart, serial_lt⟩
  | files files =>
    exact ⟨hk.nodup, hk.host_eq, hk.own_eq, hk.installed, hk.made, hk.apart, hk.serial_lt⟩

theorem Kept.follow (hk : Kept s a) (events : List Event) :
    Kept (follow s a events).1 (follow s a events).2 := by
  induction events generalizing s a with
  | nil => exact hk
  | cons event events ih => exact ih (hk.after event)

/-- **The handlers on the root.** After any events in a process, the host's handlers are on the root
as the host has left them and in its order, and the others there are this library's, as its last
call has left them, each once. Shutting down leaves the host's only, and doing it again changes
nothing. Setting up succeeds just if the log file can be opened and the level is one. It puts its
handlers behind the host's; if it fails, it attaches none, and the level of the root stays. -/
theorem handlers_follow (files : FileSystem) (stamp : String) (events : List Event) :
    let (s, a) := follow ⟨.fresh, files, stamp⟩ .empty events
    (s.root.handlers.Nodup ∧ s.root.handlers.filter (· ∈ a.host) = a.host ∧
        s.root.handlers.filter (· ∉ a.host) = a.own) ∧
      (∀ trouble again, let quiet := (s.root.shutdown trouble).1
        quiet.handlers = a.host ∧ quiet.shutdown again = (quiet, [])) ∧
      ∀ level logFile trouble,
        ((s.root.setup s.files trouble level logFile).1 = .ok () ↔
          CanOpen s.files logFile ∧ ∃ l, Level.ofValue level = .ok l) ∧
        match s.root.setup s.files trouble level logFile with
        | (.ok (), root, _) =>
          root.handlers = a.host ++ handlersFor s.root.next (logSink? s.files logFile) ∧
            (logSink? s.files logFile).isSome = logFile.isTruthy
        | (.error _, root, _) => root.handlers = a.host ∧ root.level = s.root.level := by
  have hk := (kept_fresh files stamp).follow events
  generalize follow ⟨.fresh, files, stamp⟩ .empty events = final at hk
  obtain ⟨s, a⟩ := final
  refine ⟨⟨hk.nodup, hk.host_eq, hk.own_eq⟩, fun trouble again => ?_,
    fun level logFile trouble => ?_⟩
  · refine ⟨hk.shutdown_handlers trouble, shutdown_of_installed_eq_nil again ?_⟩
    rw [shutdown_fst]
  · obtain ⟨result, root, after, hsetup, -, -, hcases⟩ :=
      setup_cases s.root s.files trouble level logFile
    rw [hk.shutdown_handlers] at hcases
    refine ⟨setup_fst_eq_ok_iff s.root s.files trouble level logFile, ?_⟩
    rw [hsetup]
    rcases hcases with ⟨⟨f, rfl⟩, hhandlers, hlevel⟩ | ⟨rfl, hinstalled, htruthy, hhandlers, -⟩
    · exact ⟨hhandlers, hlevel⟩
    · rw [hinstalled] at hhandlers
      exact ⟨hhandlers, htruthy⟩

end CredentialCheck.Log
