import CredentialCheck.Proofs.Log.Reach

/-!
# Log files that just grow

A log whose files are never full is one whose files just grow. What such files hold can be worked
out without a thought of their getting full, and if what they hold in the end leaves them below the
limit, they have never been full before.

* `Root.growing` is a log with the same handlers but for that.
* `Unfilled` says that no file is full in the end.
* `emit_eq_growing`: then a record comes to the same.
-/

namespace CredentialCheck

open Text

/-- Files have the contents of the first tree in the second, and maybe more behind them. -/
def FileSystem.GrowTo (fs fs' : FileSystem) : Prop :=
  ∀ place content, fs.content? place = some content →
    ∃ more, fs'.content? place = some (content ++ more)

section

variable {fs fs' fs'' : FileSystem}

theorem FileSystem.GrowTo.refl (fs : FileSystem) : fs.GrowTo fs := fun _ content h =>
  ⟨[], by rw [h, List.append_nil]⟩

theorem FileSystem.GrowTo.trans (h : fs.GrowTo fs') (h' : fs'.GrowTo fs'') : fs.GrowTo fs'' := by
  intro place content hcontent
  obtain ⟨more, hmore⟩ := h place content hcontent
  obtain ⟨more', hmore'⟩ := h' place _ hmore
  exact ⟨more ++ more', by rw [hmore', List.append_assoc]⟩

theorem FileSystem.growTo_append (fs : FileSystem) (place : Path) (bs : List UInt8) :
    fs.GrowTo (fs.append place bs) := by
  intro other content hcontent
  have hnode := fs.node?_append place bs other
  split at hnode
  · rw [content?_of_extended hnode, hcontent]
    exact ⟨bs, rfl⟩
  · refine ⟨[], ?_⟩
    rw [content?, hnode, ← content?, hcontent, List.append_nil]

end

namespace Log

open FileSystem

/-! ## Handlers -/

/-- The sink, with a file that just grows. -/
def Sink.growing : Sink → Sink
  | .file place _ => .file place .grows
  | sink => sink

/-- The handler, with a file that just grows. -/
def Handler.growing (h : Handler) : Handler := { h with sink := h.sink.growing }

/-- The root, with files that just grow. -/
def Root.growing (r : Root) : Root := { r with handlers := r.handlers.map Handler.growing }

/-- Where files just grow, nothing is moved. -/
theorem Root.ReachesOnly.growing {r : Root} {written moved : Path → Prop}
    (h : r.ReachesOnly written moved) : r.growing.ReachesOnly written fun _ => False := by
  intro x hx
  obtain ⟨y, hy, rfl⟩ := List.mem_map.1 hx
  have hreach := h y hy
  rw [Handler.growing]
  cases hsink : y.sink with
  | stream | nowhere => trivial
  | file place whenFull =>
    rw [hsink] at hreach
    exact ⟨hreach.1, fun hrolls => nomatch hrolls⟩

/-- None of the handlers' files is full, but for those that just grow. -/
def Unfilled (handlers : List Handler) (fs : FileSystem) : Prop :=
  ∀ h ∈ handlers, ∀ place whenFull content, h.sink = .file place whenFull → whenFull ≠ .grows →
    fs.content? place = some content → content.length < maxBytes

theorem Unfilled.of_growTo {handlers : List Handler} {fs fs' : FileSystem}
    (h : Unfilled handlers fs') (hgrow : fs.GrowTo fs') : Unfilled handlers fs := by
  intro x hx place whenFull content hsink hlimited hcontent
  obtain ⟨more, hmore⟩ := hgrow place content hcontent
  have hsmall := h x hx place whenFull _ hsink hlimited hmore
  rw [List.length_append] at hsmall
  omega

/-! ## Records -/

theorem growTo_write_growing (line : String) (handlers : List Handler) (fs : FileSystem) :
    fs.GrowTo (Root.write fs line (handlers.map Handler.growing)).2 := by
  induction handlers generalizing fs with
  | nil => exact .refl fs
  | cons h hs ih =>
    refine GrowTo.trans ?_ (ih _)
    cases hsink : h.sink with
    | stream | nowhere =>
      simp only [Handler.growing, Sink.growing, hsink]
      exact .refl fs
    | file place whenFull =>
      simp only [Handler.growing, Sink.growing, hsink, writeLine]
      exact growTo_append fs place _

/-- Handlers whose files are not full in the end write as if the files just grew. -/
theorem write_eq_growing (line : String) {handlers : List Handler} {fs : FileSystem}
    (h : Unfilled handlers (Root.write fs line (handlers.map Handler.growing)).2) :
    Root.write fs line handlers = Root.write fs line (handlers.map Handler.growing) := by
  induction handlers generalizing fs with
  | nil => rfl
  | cons x hs ih =>
    have hrest (fs : FileSystem)
        (hfs : Unfilled (x :: hs) (Root.write fs line (hs.map Handler.growing)).2) :=
      ih fun y hy => hfs y (List.mem_cons_of_mem x hy)
    cases hsink : x.sink with
    | stream | nowhere =>
      simp only [List.map_cons, Root.write, Handler.growing, Sink.growing, hsink] at h ⊢
      rw [hrest fs h]
    | file place whenFull =>
      have hgrowing : fs.writeLine place .grows line =
          fs.append place (Utf8.encode line.toList) := writeLine_eq_append fun hne => absurd rfl hne
      simp only [List.map_cons, Root.write, Handler.growing, Sink.growing, hsink, hgrowing] at h ⊢
      have hwritten : fs.writeLine place whenFull line =
          fs.append place (Utf8.encode line.toList) := by
        refine writeLine_eq_append fun hlimited content hcontent => wouldFill_eq_false ?_
        have hnode := fs.node?_append place (Utf8.encode line.toList) place
        rw [if_pos rfl] at hnode
        -- the file is not full in the end, so it was not right behind the line
        refine h.of_growTo (growTo_write_growing line hs _) x List.mem_cons_self place whenFull _
          hsink hlimited ?_
        rw [content?_of_extended hnode, hcontent]
        rfl
      rw [hwritten, hrest _ h]
      simp only [reduceCtorEq, if_false]

theorem growTo_emit_growing (r : Root) (fs : FileSystem) (stamp : String) (record : Record) :
    fs.GrowTo (r.growing.emit fs stamp record).2 := by
  unfold Root.emit
  split
  · split
    · exact .refl fs
    · exact growTo_write_growing _ r.handlers fs
  · exact .refl fs

/-- **A record comes to the same** as if the files just grew, if they are not full in the end. -/
theorem emit_eq_growing {r : Root} {fs : FileSystem} {stamp : String} {record : Record}
    (h : Unfilled r.handlers (r.growing.emit fs stamp record).2) :
    r.emit fs stamp record = r.growing.emit fs stamp record := by
  have hadmits : r.growing.admits record.level = r.admits record.level := rfl
  have hempty : r.growing.handlers.isEmpty = r.handlers.isEmpty := List.isEmpty_map
  unfold Root.emit at h ⊢
  rw [hadmits, hempty] at h ⊢
  split
  · next hlevel =>
    split
    · rfl
    · next hsome =>
      rw [if_pos hlevel, if_neg hsome] at h
      exact write_eq_growing _ h
  · rfl

end Log

end CredentialCheck
