import CredentialCheck.Proofs.Log.Handlers

/-!
# Giving handlers up

Shutting down gives up each handler that this library has installed, the last one first. Each is
detached and flushed, whatever comes of the others; it is closed if flushing it succeeds. A handler
that cannot be flushed is never closed, as one request stands behind the other under one guard.

* `Trouble.requests` is what one handler is asked to do, `release_snd` what all of them are.
* `shutdown_releases` says what becomes of the root and of each handler.
* `shutdown_leaves_open` shows a handler that is left open.
-/

namespace CredentialCheck.Log

variable {trouble : Trouble} {r : Root} {h : Handler}

/-! ## Requests -/

/-- What a handler is asked to do when it is given up. -/
def Trouble.requests (trouble : Trouble) (h : Handler) : List Call :=
  .flush h :: if trouble.flushFails h then [] else [.close h]

/-- The handlers are asked one after the other, whatever comes of it. -/
theorem release_snd (trouble : Trouble) (r : Root) (hs : List Handler) :
    (Root.release trouble r hs).2 = hs.flatMap trouble.requests := by
  induction hs generalizing r with
  | nil => rfl
  | cons h hs ih =>
    rw [List.flatMap_cons, ← ih (r.detach h)]
    rfl

theorem shutdown_snd (trouble : Trouble) (r : Root) :
    (r.shutdown trouble).2 = r.installed.reverse.flatMap trouble.requests :=
  release_snd trouble { r with installed := [] } r.installed.reverse

theorem flush_mem_requests {h' : Handler} : .flush h ∈ trouble.requests h' ↔ h = h' := by
  unfold Trouble.requests
  split <;> simp

theorem close_mem_requests {h' : Handler} :
    .close h ∈ trouble.requests h' ↔ h = h' ∧ trouble.flushFails h' = false := by
  unfold Trouble.requests
  split
  · next hfails => simp [hfails]
  · next hsucceeds => simp [hsucceeds]

/-! ## Shutting down -/

/-- **Handlers are given up whatever fails.** However many handlers are installed, and whichever
requests to them fail, none is installed or on the root afterwards, and the others there are as they
were. Each has been flushed, the last one first. Those have been closed that could be flushed: all
of them just if each of them could. -/
theorem shutdown_releases (hnodup : r.handlers.Nodup) (trouble : Trouble) :
    (r.shutdown trouble).1 =
        { r with handlers := r.handlers.filter (· ∉ r.installed), installed := [] } ∧
      (∀ h ∈ r.installed, h ∉ (r.shutdown trouble).1.handlers) ∧
      (r.shutdown trouble).2 = r.installed.reverse.flatMap trouble.requests ∧
      (∀ h, .flush h ∈ (r.shutdown trouble).2 ↔ h ∈ r.installed) ∧
      (∀ h, .close h ∈ (r.shutdown trouble).2 ↔
        h ∈ r.installed ∧ trouble.flushFails h = false) ∧
      ((∀ h ∈ r.installed, .close h ∈ (r.shutdown trouble).2) ↔
        ∀ h ∈ r.installed, trouble.flushFails h = false) := by
  have hquiet : (r.shutdown trouble).1 =
      { r with handlers := r.handlers.filter (· ∉ r.installed), installed := [] } := by
    rw [shutdown_fst, hnodup.sdiff_eq_filter]
    simp only [List.mem_reverse]
  have hclose (h : Handler) : .close h ∈ (r.shutdown trouble).2 ↔
      h ∈ r.installed ∧ trouble.flushFails h = false := by
    simp only [shutdown_snd, List.mem_flatMap, List.mem_reverse, close_mem_requests]
    constructor
    · rintro ⟨_, hmem, rfl, hsucceeds⟩
      exact ⟨hmem, hsucceeds⟩
    · rintro ⟨hmem, hsucceeds⟩
      exact ⟨h, hmem, rfl, hsucceeds⟩
  refine ⟨hquiet, fun h hmem => ?_, shutdown_snd trouble r, fun h => ?_, hclose,
    forall₂_congr fun h hmem => ?_⟩
  · rw [hquiet, List.mem_filter]
    exact fun hleft => of_decide_eq_true hleft.2 hmem
  · simp only [shutdown_snd, List.mem_flatMap, List.mem_reverse, flush_mem_requests,
      exists_eq_right']
  · rw [hclose, and_iff_right hmem]

/-- The root with a log file and a handler of the host, on which the stream cannot be flushed. -/
theorem shutdown_releases_file :
    let stream : Handler := ⟨0, .stream⟩
    let file : Handler := ⟨1, .file [] .rollsOver⟩
    let host : Handler := ⟨2, .nowhere⟩
    let r : Root := ⟨[stream, file, host], [stream, file], .number 20, 3⟩
    r.handlers.Nodup ∧ (r.shutdown (streamTrouble true)).1.handlers = [host] ∧
      .close file ∈ (r.shutdown (streamTrouble true)).2 := by
  intro stream file host r
  have hnodup : r.handlers.Nodup := by decide
  obtain ⟨hquiet, -, -, -, hclose, -⟩ := shutdown_releases hnodup (streamTrouble true)
  refine ⟨hnodup, ?_, (hclose file).2 ⟨by decide, rfl⟩⟩
  rw [hquiet]
  rfl

/-- A handler that has just been set up, and that cannot be flushed, is left open: not every handler
that is given up has been closed. -/
theorem shutdown_leaves_open :
    let r := (Root.fresh.setup (.usual []) .none (.integer 20) .null).2.1
    r.handlers = [⟨0, .stream⟩] ∧ r.installed = [⟨0, .stream⟩] ∧
      (r.shutdown (streamTrouble true)).2 = [.flush ⟨0, .stream⟩] ∧
      ¬ ∀ (r : Root) (trouble : Trouble), r.handlers.Nodup →
        ∀ h ∈ r.installed, .close h ∈ (r.shutdown trouble).2 := by
  intro r
  have hcalls : (r.shutdown (streamTrouble true)).2 = [.flush ⟨0, .stream⟩] := by decide
  refine ⟨rfl, rfl, hcalls, fun hall => ?_⟩
  have hclose := hall r (streamTrouble true) (List.nodup_singleton _) ⟨0, .stream⟩
    (List.mem_singleton.2 rfl)
  rw [hcalls] at hclose
  exact absurd hclose (by decide)

end CredentialCheck.Log
