import CredentialCheck.FileSystem
import CredentialCheck.Proofs.Text.Utf8

/-!
# Reading beside files that are written to

While log files grow and are moved out of the way, the rest of the tree stays as it is.
`SameBut written moved` relates a tree to a later one: at the places that are `written` the contents
of files may have changed, at those that are `moved` anything may, and everything else is the same.
A path that leads to no file of the first sort, and through no place of the second, reads the same
in both.

* `node?_put`: what stands where after a change to one place.
* `SameBut.append`: writing at the end of a file at a written place keeps the relation.
* `SameBut.readText`: paths that avoid the changes read the same.
* `readText_ne_nullInPath`: the one fault of reading that is not the system's comes from a null
  character in the path.
-/

namespace CredentialCheck.FileSystem

/-- The place that a path leads to. -/
def Target.place : Target → Path
  | .node path _ => path
  | .free path => path

/-- Whether a path leads to a place, or would if there were anything. -/
def LeadsTo (fs : FileSystem) (path : Spelling) (place : Path) : Prop :=
  ∃ target, fs.resolve path = .ok target ∧ target.place = place

/-- Two nodes at a place are equal, or both are files and the place is one that is written to. -/
def SameNode (written : Path → Prop) (place : Path) (a b : Option Node) : Prop :=
  b = a ∨ written place ∧ ∃ c c', a = some (.file c) ∧ b = some (.file c')

/-- The second tree is the first but for the contents of files at places that are written to, and
for what stands at places that are moved. -/
structure SameBut (written moved : Path → Prop) (fs fs' : FileSystem) : Prop where
  directory : fs'.directory = fs.directory ∨ moved fs.directory ∧ moved fs'.directory
  node : ∀ place, ¬ moved place → SameNode written place (fs.node? place) (fs'.node? place)

variable {written moved : Path → Prop} {fs fs' fs'' : FileSystem}

theorem SameNode.trans {place : Path} {a b c : Option Node} (h : SameNode written place a b)
    (h' : SameNode written place b c) : SameNode written place a c := by
  rcases h' with rfl | ⟨hplace, d, d', rfl, rfl⟩
  · exact h
  · rcases h with heq | ⟨-, e, e', rfl, -⟩
    · exact .inr ⟨hplace, d, d', heq.symm, rfl⟩
    · exact .inr ⟨hplace, e, d', rfl, rfl⟩

theorem SameBut.refl (written moved : Path → Prop) (fs : FileSystem) :
    SameBut written moved fs fs :=
  ⟨.inl rfl, fun _ _ => .inl rfl⟩

theorem SameBut.trans (h : SameBut written moved fs fs') (h' : SameBut written moved fs' fs'') :
    SameBut written moved fs fs'' := by
  refine ⟨?_, fun place hplace => (h.node place hplace).trans (h'.node place hplace)⟩
  rcases h'.directory with heq | ⟨hbefore, hafter⟩
  · exact heq ▸ h.directory
  · rcases h.directory with heq | ⟨hfirst, -⟩
    · exact .inr ⟨heq ▸ hbefore, hafter⟩
    · exact .inr ⟨hfirst, hafter⟩

/-! ## Writing -/

/-- Looking for a place among nodes of which one has been replaced. -/
theorem find?_replaced (nodes : List (Path × Node)) (place : Path) (node : Node) (path : Path) :
    (nodes.map fun n => if n.1 == place then (place, node) else n).find? (fun n => n.1 == path) =
      (nodes.find? fun n => n.1 == path).map fun n =>
        if path = place then (place, node) else n := by
  induction nodes with
  | nil => rfl
  | cons n nodes ih =>
    rw [List.map_cons, List.find?_cons, List.find?_cons, ih]
    by_cases hn : n.1 = place
    · have hhead : (if n.1 == place then (place, node) else n) = (place, node) :=
        if_pos (beq_iff_eq.2 hn)
      rw [hhead, hn]
      by_cases hpath : place = path
      · subst hpath
        simp
      · simp [beq_eq_false_iff_ne.2 hpath]
    · have hhead : (if n.1 == place then (place, node) else n) = n :=
        if_neg fun h => hn (beq_iff_eq.1 h)
      rw [hhead]
      by_cases hpath : n.1 = path
      · have hne : path ≠ place := fun h => hn (hpath.trans h)
        simp [hpath, hne]
      · simp [beq_eq_false_iff_ne.2 hpath]

/-- What stands at a path after a change to a place. -/
theorem node?_put (fs : FileSystem) (place : Path) (node : Node) (path : Path) :
    (fs.put place node).node? path =
      if path.isPrefixOf fs.directory then some .directory
      else if path = place then some node else fs.node? path := by
  unfold put
  split
  · next hany =>
    obtain ⟨n, hn, hkey⟩ := List.any_eq_true.1 hany
    have hfound : (fs.nodes.find? fun n => n.1 == place).isSome = true :=
      List.find?_isSome.2 ⟨n, hn, hkey⟩
    unfold node?
    dsimp only
    split
    · rfl
    · rw [find?_replaced]
      by_cases hpath : path = place
      · subst hpath
        obtain ⟨m, hm⟩ := Option.isSome_iff_exists.1 hfound
        rw [hm, if_pos rfl]
        simp
      · simp [hpath]
  · next hnone =>
    have hmissing : fs.nodes.find? (fun n => n.1 == place) = none :=
      List.find?_eq_none.2 fun n hn hkey => hnone (List.any_eq_true.2 ⟨n, hn, hkey⟩)
    unfold node?
    dsimp only
    split
    · rfl
    · rw [List.find?_append]
      by_cases hpath : path = place
      · subst hpath
        rw [hmissing, if_pos rfl]
        simp
      · have hkey : (place == path) = false := beq_eq_false_iff_ne.2 fun h => hpath h.symm
        rw [if_neg hpath, List.find?_singleton, hkey]
        simp

@[simp] theorem directory_put (fs : FileSystem) (place : Path) (node : Node) :
    (fs.put place node).directory = fs.directory := by
  unfold put
  split <;> rfl

/-- A file at a written place may get another content. -/
theorem SameBut.put_file {place : Path} (hplace : written place) {content : List UInt8}
    (hfile : ¬ moved place → ∃ c, fs.node? place = some (.file c)) :
    SameBut written moved fs (fs.put place (.file content)) := by
  refine ⟨.inl (directory_put fs place _), fun path hpath => ?_⟩
  rw [node?_put]
  split
  · next hdirectory => exact .inl (if_pos hdirectory).symm
  split
  · next heq =>
    subst heq
    obtain ⟨c, hc⟩ := hfile hpath
    exact .inr ⟨hplace, c, content, hc, rfl⟩
  · exact .inl rfl

/-- Writing at the end of a file changes its content, and writing elsewhere changes nothing. -/
theorem sameBut_append {place : Path} (hplace : written place) (bs : List UInt8) :
    SameBut written moved fs (fs.append place bs) := by
  unfold FileSystem.append
  split
  · next content hfile => exact .put_file hplace fun _ => ⟨content, hfile⟩
  · exact .refl written moved fs

theorem SameBut.append {place : Path} (h : SameBut written moved fs fs') (hplace : written place)
    (bs : List UInt8) : SameBut written moved fs (fs'.append place bs) :=
  h.trans (sameBut_append hplace bs)

/-! ## Following a path -/

/-- A path avoids the changes: it leads to no place that is written to, and passes none that is
moved. -/
structure Avoids (fs : FileSystem) (written moved : Path → Prop) (path : Spelling) : Prop where
  written : ∀ place, written place → ¬ fs.LeadsTo path place
  moved : ∀ place ∈ fs.placesOn path, ¬ moved place

/-- A path leads to the same place, where the same stands unless the file there is written to. -/
theorem SameBut.follow (h : SameBut written moved fs fs') (parts : List FileName) :
    ∀ {place : Path} {node node' : Node},
      (∀ n ≤ parts.length, ¬ moved (Path.walk place (parts.take n))) →
      SameNode written place (some node) (some node') →
      fs'.follow place node' parts = fs.follow place node parts ∨
        ∃ q c c', written q ∧ fs.follow place node parts = .ok (.node q (.file c)) ∧
          fs'.follow place node' parts = .ok (.node q (.file c')) := by
  induction parts with
  | nil =>
    intro place node node' _ hnode
    rcases hnode with heq | ⟨hplace, c, c', heq, heq'⟩
    · cases heq
      exact .inl rfl
    · cases heq
      cases heq'
      exact .inr ⟨place, c, c', hplace, rfl, rfl⟩
  | cons part rest ih =>
    intro place node node' hplaces hnode
    rcases hnode with heq | ⟨-, c, c', heq, heq'⟩
    · cases heq
      cases node with
      | file | void | refused => exact .inl rfl
      | directory =>
        have hrest (n : Nat) (hn : n ≤ rest.length) :
            ¬ moved (Path.walk place (part :: rest.take n)) :=
          hplaces (n + 1) (Nat.succ_le_succ hn)
        simp only [FileSystem.follow]
        split
        · next hstays =>
          refine ih (fun n hn => ?_) (.inl rfl)
          have hplace := hrest n hn
          rwa [Path.walk, if_pos hstays] at hplace
        split
        · next hstays hback =>
          refine ih (fun n hn => ?_) (.inl rfl)
          have hplace := hrest n hn
          rwa [Path.walk, if_neg hstays, if_pos hback] at hplace
        split
        · exact .inl rfl
        next hstays hback _ =>
        have hbelow (n : Nat) (hn : n ≤ rest.length) :
            ¬ moved (Path.walk (place ++ [part]) (rest.take n)) := by
          have hplace := hrest n hn
          rwa [Path.walk, if_neg hstays, if_neg hback] at hplace
        rcases h.node (place ++ [part]) (hbelow 0 (Nat.zero_le _)) with
          heq | ⟨hplace, c, c', heq, heq'⟩
        · rw [heq]
          cases fs.node? (place ++ [part]) with
          | none => exact .inl rfl
          | some node => exact ih hbelow (.inl rfl)
        · rw [heq, heq']
          exact ih hbelow (.inr ⟨hplace, c, c', rfl, rfl⟩)
    · cases heq
      cases heq'
      exact .inl rfl

theorem SameBut.resolve (h : SameBut written moved fs fs') {path : Spelling}
    (hpath : ∀ place ∈ fs.placesOn path, ¬ moved place) :
    fs'.resolve path = fs.resolve path ∨
      ∃ q c c', written q ∧ fs.resolve path = .ok (.node q (.file c)) ∧
        fs'.resolve path = .ok (.node q (.file c')) := by
  have hplaces (n : Nat) (hn : n ≤ path.parts.length) :
      ¬ moved (Path.walk (path.start fs.directory) (path.parts.take n)) :=
    hpath _ (List.mem_map.2 ⟨n, List.mem_range.2 (Nat.lt_succ_of_le hn), rfl⟩)
  have hstart : path.start fs'.directory = path.start fs.directory := by
    unfold Spelling.start
    split
    · rfl
    · next hrelative =>
      have hdirectory := hplaces 0 (Nat.zero_le _)
      rw [List.take_zero, Path.walk, Spelling.start, if_neg hrelative] at hdirectory
      exact h.directory.resolve_right fun hboth => hdirectory hboth.1
  unfold FileSystem.resolve
  split
  · exact .inl rfl
  split
  · exact .inl rfl
  split
  · exact .inl rfl
  rw [hstart]
  have hdirectory : SameNode written (path.start fs.directory) (some .directory)
      (some .directory) := .inl rfl
  rcases h.follow path.parts hplaces hdirectory with heq | ⟨q, c, c', hplace, heq, heq'⟩
  · rw [heq]
    exact .inl rfl
  · rw [heq, heq']
    exact .inr ⟨q, c, c', hplace, rfl, rfl⟩

/-- **Paths that avoid the changes read the same.** -/
theorem SameBut.readText (h : SameBut written moved fs fs') {path : Spelling}
    (hpath : fs.Avoids written moved path) : fs'.readText path = fs.readText path := by
  rcases h.resolve hpath.moved with heq | ⟨q, c, c', hplace, heq, -⟩
  · simp only [FileSystem.readText, FileSystem.readExact, FileSystem.readBytes, heq]
  · exact absurd ⟨_, heq, rfl⟩ (hpath.written q hplace)

/-! ## Null characters -/

theorem readText_ne_nullInPath (fs : FileSystem) {path : String} (h : '\x00' ∉ path.toList) :
    fs.readText (.text path) ≠ .error .nullInPath := by
  have hbytes : 0 ∉ (Spelling.text path).toBytes := fun hmem =>
    h (Text.Utf8.null_mem_of_zero_mem hmem)
  have hresolve : fs.resolve (.text path) ≠ .error .nullInPath := by
    unfold FileSystem.resolve
    rw [if_neg hbytes]
    split
    · simp
    split
    · simp
    split <;> simp
  unfold FileSystem.readText FileSystem.readExact FileSystem.readBytes
  intro heq
  split at heq
  · next f hf =>
    split at hf
    · next g hg =>
      cases hf
      cases heq
      exact hresolve hg
    all_goals
      cases hf
      try cases heq
  · split at heq <;> cases heq

end CredentialCheck.FileSystem
