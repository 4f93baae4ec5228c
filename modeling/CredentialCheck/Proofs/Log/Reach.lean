import CredentialCheck.Log.Root
import CredentialCheck.Proofs.FileSystem.Rolling

/-!
# What a log can change

A record changes the files that the handlers on the root write to and, where a handler rolls its
file over, the backups. Nothing else in the tree changes.

* `Root.ReachesOnly` says which places the handlers write to and which they may move.
* `sameBut_emit` is the statement about a record.
-/

namespace CredentialCheck.Log

open FileSystem

/-- The sink writes to certain places only, and may move certain others. -/
def Sink.ReachesOnly (written moved : Path → Prop) : Sink → Prop
  | .file place whenFull =>
    written place ∧ (whenFull = .rollsOver → ∀ other, place.InBackup other → moved other)
  | _ => True

/-- The handlers on the root write to certain places only, and may move certain others. -/
def Root.ReachesOnly (written moved : Path → Prop) (r : Root) : Prop :=
  ∀ h ∈ r.handlers, h.sink.ReachesOnly written moved

variable {written moved : Path → Prop}

theorem Root.ReachesOnly.mono {r : Root} {written' moved' : Path → Prop}
    (h : r.ReachesOnly written moved) (hwritten : ∀ place, written place → written' place)
    (hmoved : ∀ place, moved place → moved' place) : r.ReachesOnly written' moved' := by
  intro x hx
  have hreach := h x hx
  cases hsink : x.sink with
  | stream | nowhere => trivial
  | file place whenFull =>
    rw [hsink] at hreach
    exact ⟨hwritten place hreach.1, fun hrolls other hother =>
      hmoved other (hreach.2 hrolls other hother)⟩

theorem sameBut_write (line : String) {handlers : List Handler}
    (hsinks : ∀ h ∈ handlers, h.sink.ReachesOnly written moved) (fs : FileSystem) :
    SameBut written moved fs (Root.write fs line handlers).2 := by
  induction handlers generalizing fs with
  | nil => exact .refl written moved fs
  | cons h hs ih =>
    rw [List.forall_mem_cons] at hsinks
    refine SameBut.trans ?_ (ih hsinks.2 _)
    cases hsink : h.sink with
    | file place whenFull =>
      rw [hsink] at hsinks
      exact sameBut_writeLine hsinks.1.1 hsinks.1.2
    | stream | nowhere => exact .refl written moved fs

/-- **A record changes nothing that the handlers do not reach.** -/
theorem sameBut_emit {r : Root} (h : r.ReachesOnly written moved) (fs : FileSystem)
    (stamp : String) (record : Record) :
    SameBut written moved fs (r.emit fs stamp record).2 := by
  unfold Root.emit
  split
  · split
    · exact .refl written moved fs
    · exact sameBut_write _ h fs
  · exact .refl written moved fs

end CredentialCheck.Log
