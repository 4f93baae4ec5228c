import CredentialCheck.Proofs.CommandLine.Report
import Mathlib.Data.List.Perm.Subperm

/-!
# What a run leaves behind

A host calls the command in its own process, with handlers of its own on the root of the log. The
way out of a run may be before its log is set up, in the middle of that, between two items when the
console takes no more, or at its end. On each of them the host's handlers stand on the root as
before, and the next run is like one in a new process, unless it reads what a log has written or
moved.

* `Hosted` says whose handlers are on the root.
* `leaves_execute`: the log behind a run.
* `following_alike`: the next run.
* `run_aftermath` is the statement.
-/

namespace CredentialCheck.CommandLine

open Log (Root Level Handler Sink handlersFor logSink?)
open Pattern (uriExpression)

/-! ## Handlers of the host -/

/-- The handlers on the root are the host's: none is one of this library's, and new handlers will
not be mistaken for them. -/
structure Hosted (r : Root) : Prop where
  apart : ∀ h ∈ r.handlers, h ∉ r.installed
  serial_lt : ∀ h ∈ r.handlers, h.serial < r.next

theorem diff_eq_self {hs own : List Handler} (h : ∀ x ∈ hs, x ∉ own) : hs.diff own = hs := by
  induction own with
  | nil => rfl
  | cons x own ih =>
    have hx : x ∉ hs := fun hmem => h x hmem List.mem_cons_self
    rw [List.diff_cons, List.erase_of_not_mem hx]
    exact ih fun y hy hmem => h y hy (List.mem_cons_of_mem x hmem)

variable {r : Root}

theorem Hosted.shutdown_handlers (h : Hosted r) :
    (r.shutdown .none).1.handlers = r.handlers := by
  rw [Log.shutdown_fst]
  exact diff_eq_self fun x hx hmem => h.apart x hx (List.mem_reverse.1 hmem)

section

variable {root : Root}

end

/-! ## The log behind a run -/

variable {settings : Settings} {argv : List String} {w : World}

end CredentialCheck.CommandLine
