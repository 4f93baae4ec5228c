import CredentialCheck.Proofs.FileSystem.Reading

/-!
# Writing to a file

What writing does to the content at one place. Opening a file makes it if it is missing, and adds
nothing to any content; appending adds the bytes behind the content of its own file and leaves all
others alone.

* `openForAppend_cases`: the two ways in which a file is opened.
* `Adds` relates two trees by what has come to the content at one place.
* `node?_append`: what stands where when something has been written.
-/

namespace CredentialCheck.FileSystem

variable {fs fs' fs'' : FileSystem} {place : Path}

/-! ## One place -/

theorem isPrefixOf_directory_of_node?_ne (h : fs.node? place ≠ some .directory) :
    ¬ place.isPrefixOf fs.directory := by
  intro hprefix
  exact h (if_pos hprefix)

theorem content?_eq_some_iff {content : List UInt8} :
    fs.content? place = some content ↔ fs.node? place = some (.file content) := by
  unfold content?
  split <;> simp_all

/-! ## Opening -/

/-- A path that leads to something other than a directory has found it there. -/
theorem node?_of_follow {parts : List FileName} {start : Path} {node : Node}
    (hstart : node ≠ .directory → fs.node? start = some node) {found : Node}
    (h : fs.follow start node parts = .ok (.node place found)) (hfound : found ≠ .directory) :
    fs.node? place = some found := by
  fun_induction FileSystem.follow fs start node parts with
  | case1 start node =>
    cases h
    exact hstart hfound
  | case2 | case3 | case4 | case7 | case10 => cases h
  | case5 start part rest _ ih | case6 start part rest _ _ ih =>
    exact ih (fun hne => absurd rfl hne) h
  | case8 start part rest _ _ _ child node hnode ih => exact ih (fun _ => hnode) h
  | case9 => cases h

theorem node?_of_follow_free {parts : List FileName} {start : Path} {node : Node}
    (h : fs.follow start node parts = .ok (.free place)) : fs.node? place = none := by
  fun_induction FileSystem.follow fs start node parts with
  | case1 | case2 | case3 | case4 | case7 | case10 => cases h
  | case5 start part rest _ ih | case6 start part rest _ _ ih => exact ih h
  | case8 start part rest _ _ _ child node hnode ih => exact ih h
  | case9 start part rest _ _ _ child hnone =>
    have hchild : child = place := Target.free.inj (Except.ok.inj h)
    exact hchild ▸ hnone

theorem resolve_eq_ok {path : Spelling} {target : Target} (h : fs.resolve path = .ok target) :
    fs.follow (path.start fs.directory) .directory path.parts = .ok target := by
  unfold resolve at h
  dsimp only at h
  split at h
  · cases h
  split at h
  · cases h
  split at h
  · cases h
  split at h
  · next hfollow =>
    cases h
    exact hfollow
  · cases h

/-- **A file is opened as it stands there, or made.** -/
theorem openForAppend_cases {path : Spelling} (h : fs.openForAppend path = .ok (place, fs')) :
    fs' = fs ∧ (fs.node? place = some .void ∨ ∃ content, fs.content? place = some content) ∨
      fs' = fs.put place (.file []) ∧ fs.node? place = none := by
  unfold openForAppend at h
  dsimp only at h
  split at h
  · cases h
  · cases h
  · cases h
  · next found hdirectory hrefused hresolve =>
    cases h
    have hfound := node?_of_follow (fun hne => absurd rfl hne) (resolve_eq_ok hresolve) hdirectory
    refine .inl ⟨rfl, ?_⟩
    cases found with
    | directory => exact absurd rfl hdirectory
    | refused fault => exact absurd rfl (hrefused fault)
    | void => exact .inl hfound
    | file content => exact .inr ⟨content, content?_eq_some_iff.2 hfound⟩
  · next hresolve =>
    cases h
    exact .inr ⟨rfl, node?_of_follow_free (resolve_eq_ok hresolve)⟩

/-! ## What comes to a content -/

/-- The second tree has, at the place, the content of the first with bytes added behind it, unless a
device is there. A file stays a file, and a device a device. -/
structure Adds (place : Path) (bs : List UInt8) (fs fs' : FileSystem) : Prop where
  content : fs.node? place ≠ some .void →
    (fs'.content? place).getD [] = (fs.content? place).getD [] ++ bs
  isSome : (fs.content? place).isSome → (fs'.content? place).isSome
  void : fs'.node? place = some .void ↔ fs.node? place = some .void

theorem Adds.refl (place : Path) (fs : FileSystem) : Adds place [] fs fs :=
  ⟨fun _ => (List.append_nil _).symm, id, Iff.rfl⟩

theorem Adds.trans {bs bs' : List UInt8} (h : Adds place bs fs fs') (h' : Adds place bs' fs' fs'') :
    Adds place (bs ++ bs') fs fs'' := by
  refine ⟨fun hdevice => ?_, h'.isSome ∘ h.isSome, h'.void.trans h.void⟩
  rw [h'.content (mt h.void.1 hdevice), h.content hdevice, List.append_assoc]

/-- The same stands at the place. -/
theorem adds_of_node?_eq (h : fs'.node? place = fs.node? place) : Adds place [] fs fs' := by
  have hcontent : fs'.content? place = fs.content? place := by rw [content?, content?, h]
  exact ⟨fun _ => by rw [hcontent, List.append_nil], hcontent ▸ id, h ▸ Iff.rfl⟩

/-- A file that is made is empty. -/
theorem content?_put_file (h : fs.node? place = none) :
    (fs.put place (.file [])).content? place = some [] := by
  have hprefix := isPrefixOf_directory_of_node?_ne (by rw [h]; simp)
  rw [content?_eq_some_iff, node?_put, if_neg hprefix, if_pos rfl]

theorem node?_put_of_ne {other : Path} (h : place ≠ other) (fs : FileSystem) (node : Node) :
    (fs.put other node).node? place = fs.node? place := by
  rw [node?_put, if_neg h]
  split
  · next hdirectory => exact (if_pos hdirectory).symm
  · rfl

/-- **Opening a file adds nothing to any content.** -/
theorem adds_openForAppend {path : Spelling} {opened : Path}
    (h : fs.openForAppend path = .ok (opened, fs')) (place : Path) : Adds place [] fs fs' := by
  rcases openForAppend_cases h with ⟨rfl, -⟩ | ⟨rfl, hnone⟩
  · exact .refl place fs'
  · by_cases hplace : place = opened
    · subst hplace
      have hmade := content?_put_file hnone
      have hmissing : fs.content? place = none := by rw [content?, hnone]
      refine ⟨fun _ => by rw [hmade, hmissing]; rfl, fun _ => by rw [hmade]; rfl, ?_⟩
      rw [content?_eq_some_iff.1 hmade, hnone]
      simp
    · exact adds_of_node?_eq (node?_put_of_ne hplace fs _)

/-- A file that has been opened is there, unless it is a device. -/
theorem isSome_content?_of_openForAppend {path : Spelling}
    (h : fs.openForAppend path = .ok (place, fs')) (hdevice : fs.node? place ≠ some .void) :
    (fs'.content? place).isSome := by
  rcases openForAppend_cases h with ⟨rfl, hvoid | ⟨content, hcontent⟩⟩ | ⟨rfl, hnone⟩
  · exact absurd hvoid hdevice
  · rw [hcontent]
    rfl
  · rw [content?_put_file hnone]
    rfl

/-! ## Appending -/

/-- A file with bytes added to it. What is no file stays as it is. -/
def extended (bs : List UInt8) : Node → Node
  | .file content => .file (content ++ bs)
  | node => node

theorem extended_nil : extended [] = id := by
  funext node
  cases node with
  | file content => exact congrArg Node.file (List.append_nil content)
  | directory | void | refused => rfl

theorem extended_extended (bs more : List UInt8) :
    extended more ∘ extended bs = extended (bs ++ more) := by
  funext node
  cases node with
  | file content => exact congrArg Node.file (List.append_assoc content bs more)
  | directory | void | refused => rfl

/-- **Appending extends the file at the place**, if one is there, and changes nothing else. -/
theorem node?_append (fs : FileSystem) (other : Path) (bs : List UInt8) (place : Path) :
    (fs.append other bs).node? place =
      if place = other then (fs.node? place).map (extended bs) else fs.node? place := by
  by_cases hplace : place = other
  · subst hplace
    rw [if_pos rfl, append]
    cases hnode : fs.node? place with
    | none => exact hnode
    | some node =>
      cases node with
      | directory | void | refused => exact hnode
      | file content =>
        have hprefix := isPrefixOf_directory_of_node?_ne (by rw [hnode]; simp)
        dsimp only
        rw [node?_put, if_neg hprefix, if_pos rfl]
        rfl
  · rw [if_neg hplace, append]
    split
    · exact node?_put_of_ne hplace fs _
    · rfl

/-- What stands at the place has been extended. -/
theorem content?_of_extended {bs : List UInt8}
    (h : fs'.node? place = (fs.node? place).map (extended bs)) :
    fs'.content? place = (fs.content? place).map (· ++ bs) := by
  rw [content?, content?, h]
  cases fs.node? place with
  | none => rfl
  | some node => cases node <;> rfl

/-- What has been extended has the bytes behind its content, if there is a file. -/
theorem adds_of_extended {bs : List UInt8}
    (h : fs'.node? place = (fs.node? place).map (extended bs))
    (hfile : fs.node? place = some .void ∨ bs = [] ∨ (fs.content? place).isSome) :
    Adds place bs fs fs' := by
  have hcontent := content?_of_extended h
  refine ⟨fun hdevice => ?_, fun hthere => ?_, ?_⟩
  · rw [hcontent]
    cases hthere : fs.content? place with
    | some content => rfl
    | none =>
      rw [hthere] at hfile
      rcases hfile with hvoid | rfl | hnone
      · exact absurd hvoid hdevice
      · rfl
      · cases hnone
  · rw [hcontent, Option.isSome_map]
    exact hthere
  · rw [h]
    cases fs.node? place with
    | none => simp
    | some node => cases node <;> simp [extended]

end CredentialCheck.FileSystem
