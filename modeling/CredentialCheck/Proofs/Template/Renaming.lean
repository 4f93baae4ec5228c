import CredentialCheck.Proofs.Template.Filling

/-!
# Fields with their numbers

A positional field without a number is the next one in the order of the opening braces, and fields
inside layouts are counted with the others. `renumber` puts these numbers in front of the names, for
all such fields or for some; nothing else in the template changes.

* `FieldIn` says which fields a template has, `topNumbers` which numbers belong to fields outside
  layouts.
* `takeField_renumber` takes a field with its number, and `renumber_count_le` bounds the numbers.
* `exists_field_renumber` finds the fields outside layouts in the renumbered template.
-/

namespace CredentialCheck

namespace Template

/-! ## Kinds of fields -/

/-- A positional field without a number. -/
def Field.isAutomatic (f : Field) : Bool :=
  match Reference.read f.name with
  | .ok (.next, _) => true
  | _ => false

/-- A positional field with a number. -/
def Field.isNumbered (f : Field) : Bool :=
  match Reference.read f.name with
  | .ok (.position _, _) => true
  | _ => false

/-- A field of the template, or of a layout in it. -/
inductive FieldIn (f : Field) : List Char → Prop
  | here {s : List Char} (h : .field f ∈ scan s) : FieldIn f s
  | inside {s : List Char} {g : Field} (hg : .field g ∈ scan s) (h : FieldIn f g.spec) : FieldIn f s

theorem Field.isAutomatic_iff {f : Field} :
    f.isAutomatic = true ↔ ∃ path, Reference.read f.name = .ok (.next, path) := by
  unfold Field.isAutomatic
  split
  · next path h => exact ⟨fun _ => ⟨path, h⟩, fun _ => rfl⟩
  · next h => exact ⟨fun h => (nomatch h), fun ⟨path, hpath⟩ => absurd hpath (h path)⟩

theorem Field.isNumbered_iff {f : Field} :
    f.isNumbered = true ↔ ∃ i path, Reference.read f.name = .ok (.position i, path) := by
  unfold Field.isNumbered
  split
  · next i path h => exact ⟨fun _ => ⟨i, path, h⟩, fun _ => rfl⟩
  · next h => exact ⟨fun h => (nomatch h), fun ⟨i, path, hpath⟩ => absurd hpath (h i path)⟩

/-- An automatic field is a path alone. -/
theorem Reference.eq_path_of_read_next {name path : List Char}
    (h : Reference.read name = .ok (.next, path)) : name = path ∧ IsPath path := by
  cases name with
  | nil =>
    cases h
    exact ⟨rfl, isPath_nil⟩
  | cons c name =>
    rw [Reference.read, List.span_eq_takeWhile_dropWhile] at h
    by_cases hc : c ≠ '.' ∧ c ≠ '['
    · -- there is a name in front of the path
      have htake : ((c :: name).takeWhile fun c => decide (c ≠ '.' ∧ c ≠ '[')).isEmpty = false := by
        simp [hc]
      simp only [htake, Bool.false_eq_true, if_false] at h
      split at h <;> cases h
    · have htake : ((c :: name).takeWhile fun c => decide (c ≠ '.' ∧ c ≠ '[')).isEmpty = true := by
        simp [hc]
      have hdrop : ((c :: name).dropWhile fun c => decide (c ≠ '.' ∧ c ≠ '[')) = c :: name := by
        simp [hc]
      simp only [htake, if_true, hdrop] at h
      cases h
      refine ⟨rfl, ?_⟩
      rintro d ⟨⟩
      by_contra hd
      exact hc (not_or.1 hd)

/-! ## Renaming -/

/-- What stands in front of the layout of a field: the name and the marks behind it. `s` is the text
from behind the opening brace, `rest` the text behind the closing one. -/
def Field.front (f : Field) (s rest : List Char) : List Char :=
  s.take (s.length - (f.spec.length + 1 + rest.length))

theorem Field.length_spec_lt {f : Field} {s rest : List Char} (h : takeField s = .ok (f, rest)) :
    f.spec.length < s.length := by
  obtain ⟨marks, -, rfl⟩ := takeField_eq_ok h
  simp only [List.length_append, List.length_cons]
  omega

/-- The number that an automatic field is given in front of its name, if it is the `k`-th and
chosen. -/
def Field.number (f : Field) (chosen : Nat → Bool) (k : Nat) : List Char :=
  if f.isAutomatic ∧ chosen k then Nat.toDigits 10 k else []

/-- The count behind the opening brace of a field. -/
def Field.count (f : Field) (k : Nat) : Nat := if f.isAutomatic then k + 1 else k

/-- The template with numbers for those of its automatic fields that are chosen. The fields are
counted from `k` in the order of their opening braces; beside the text comes the count behind it. -/
def renumber (chosen : Nat → Bool) (k : Nat) : List Char → List Char × Nat
  | [] => ([], k)
  | '{' :: '{' :: s => (renumber chosen k s).map ('{' :: '{' :: ·) id
  | '}' :: '}' :: s => (renumber chosen k s).map ('}' :: '}' :: ·) id
  | '{' :: s =>
    match _ : takeField s with
    | .error _ => ('{' :: s, k)
    | .ok (f, rest) =>
      let spec := renumber chosen (f.count k) f.spec
      let behind := renumber chosen spec.2 rest
      ('{' :: (f.number chosen k ++ f.front s rest ++ spec.1 ++ '}' :: behind.1), behind.2)
  | '}' :: s => ('}' :: s, k)
  | c :: s => (renumber chosen k s).map (c :: ·) id
termination_by s => s.length
decreasing_by
  · simp only [List.length_cons]; omega
  · simp only [List.length_cons]; omega
  · exact Nat.lt_succ_of_lt (Field.length_spec_lt ‹_›)
  · exact Nat.lt_succ_of_lt (length_lt_of_takeField ‹_›)
  · exact Nat.lt_succ_self _

variable {chosen : Nat → Bool} {k : Nat} {s rest : List Char} {f : Field}

theorem Field.front_eq {front : List Char} (h : s = front ++ f.spec ++ '}' :: rest) :
    f.front s rest = front := by
  have hlength : s.length - (f.spec.length + 1 + rest.length) = front.length := by
    rw [h]
    simp only [List.length_append, List.length_cons]
    omega
  rw [Field.front, hlength, h, List.append_assoc, List.take_left]

theorem Field.number_of_not_isAutomatic (h : f.isAutomatic = false) : f.number chosen k = [] := by
  simp [Field.number, h]

theorem isNameChar_of_mem_number {c : Char} (hc : c ∈ f.number chosen k) :
    isNameChar c = true := by
  unfold Field.number at hc
  split at hc
  · exact isNameChar_of_mem_toDigits hc
  · cases hc

theorem depthAfter_number (depth : Nat) :
    depthAfter depth (f.number chosen k) = some depth :=
  depthAfter_of_isNameChar depth fun _ hc => isNameChar_of_mem_number hc

/-! ### What is kept -/

/-- The braces are matched as before. -/
theorem depthAfter_renumber (depth : Nat) :
    depthAfter depth (renumber chosen k s).1 = depthAfter depth s := by
  fun_induction renumber chosen k s generalizing depth with
  | case1 => rfl
  | case2 k s ih =>
    simp only [Prod.map_fst, depthAfter_cons, ih]
  | case3 k s ih =>
    simp only [Prod.map_fst, depthAfter_cons, ih]
  | case4 => rfl
  | case5 k s hdouble f rest hfield spec behind ihspec ihbehind =>
    obtain ⟨marks, -, rfl⟩ := takeField_eq_ok hfield
    rw [Field.front_eq rfl]
    simp only [depthAfter_cons, depthAfter_append, depthAfter_number, Option.bind_some, spec,
      behind, ihspec, ihbehind]
  | case6 => rfl
  | case7 k c s _ _ _ _ ih =>
    simp only [Prod.map_fst, depthAfter_cons, ih]

/-- Numbers are put into fields only. -/
theorem renumber_of_not_mem (h : '{' ∉ s) : renumber chosen k s = (s, k) := by
  fun_induction renumber chosen k s with
  | case1 => rfl
  | case2 => exact absurd List.mem_cons_self h
  | case3 k s ih =>
    simp only [List.mem_cons, not_or] at h
    rw [ih h.2.2]
    rfl
  | case4 => rfl
  | case5 => exact absurd List.mem_cons_self h
  | case6 => rfl
  | case7 k c s _ _ _ _ ih =>
    rw [ih fun hs => h (List.mem_cons_of_mem c hs)]
    rfl

theorem mem_renumber_iff : '{' ∈ (renumber chosen k s).1 ↔ '{' ∈ s := by
  fun_induction renumber chosen k s with
  | case1 => rfl
  | case2 => simp
  | case3 k s ih => simp [ih]
  | case4 => rfl
  | case5 => simp
  | case6 => rfl
  | case7 k c s _ _ _ _ ih => simp [ih]

/-- A field with a number in front of its name is taken as before. -/
theorem takeField_renumber (h : takeField s = .ok (f, rest)) (k' : Nat) (rest' : List Char) :
    takeField (f.number chosen k ++ f.front s rest ++ (renumber chosen k' f.spec).1 ++
        '}' :: rest') =
      .ok (⟨f.number chosen k ++ f.name, f.conversion, (renumber chosen k' f.spec).1⟩, rest') := by
  obtain ⟨marks, hwritten, rfl⟩ := takeField_eq_ok h
  have hfield : Field.IsWritten
      ⟨f.number chosen k ++ f.name, f.conversion, (renumber chosen k' f.spec).1⟩ marks := {
    name := hwritten.name.append fun c hc => isNameChar_of_mem_number hc
    marks := hwritten.marks.of_imp fun hempty => by rw [hempty, renumber]
    spec := by rw [depthAfter_renumber, hwritten.spec] }
  rw [Field.front_eq rfl, ← List.append_assoc]
  exact takeField_append hfield rest'

/-! ### Counting -/

theorem renumber_field (h : takeField s = .ok (f, rest)) :
    renumber chosen k ('{' :: s) =
      ('{' :: (f.number chosen k ++ f.front s rest ++ (renumber chosen (f.count k) f.spec).1 ++
          '}' :: (renumber chosen (renumber chosen (f.count k) f.spec).2 rest).1),
        (renumber chosen (renumber chosen (f.count k) f.spec).2 rest).2) := by
  rw [renumber]
  · split
    · next fault hfield =>
      rw [h] at hfield
      cases hfield
    · next f' rest' hfield =>
      rw [h] at hfield
      cases hfield
      rfl
  · rintro t rfl
    cases h

/-- Which fields are chosen makes no difference to the count. -/
theorem renumber_count (chosen' : Nat → Bool) :
    (renumber chosen k s).2 = (renumber chosen' k s).2 := by
  fun_induction renumber chosen k s with
  | case1 => rw [renumber]
  | case2 k s ih =>
    rw [renumber]
    exact ih
  | case3 k s ih =>
    rw [renumber]
    exact ih
  | case4 k s hdouble fault hfield =>
    rw [renumber]
    · split
      · rfl
      · next hfield' =>
        rw [hfield] at hfield'
        cases hfield'
    · exact hdouble
  | case5 k s hdouble f rest hfield spec behind ihspec ihbehind =>
    rw [renumber_field hfield]
    dsimp only [behind]
    rw [ihbehind, ← ihspec]
  | case6 k s hdouble =>
    rw [renumber]
    exact hdouble
  | case7 k c s hopens hcloses hopen hclose ih =>
    rw [renumber]
    · exact ih
    all_goals assumption

/-- Every field that is counted takes up a character. -/
theorem renumber_count_le :
    k ≤ (renumber chosen k s).2 ∧ (renumber chosen k s).2 ≤ k + s.length := by
  fun_induction renumber chosen k s with
  | case1 => simp
  | case2 k s ih => simp only [Prod.map_snd, id, List.length_cons]; omega
  | case3 k s ih => simp only [Prod.map_snd, id, List.length_cons]; omega
  | case4 => simp
  | case5 k s hdouble f rest hfield spec behind ihspec ihbehind =>
    have hcount : k ≤ f.count k ∧ f.count k ≤ k + 1 := by
      unfold Field.count
      split <;> omega
    obtain ⟨marks, -, rfl⟩ := takeField_eq_ok hfield
    simp only [List.length_cons, List.length_append, behind, spec] at ihspec ihbehind ⊢
    omega
  | case6 => simp
  | case7 k c s _ _ _ _ ih => simp only [Prod.map_snd, id, List.length_cons]; omega

/-! ### Fields outside layouts -/

/-- The numbers of all automatic fields. -/
def everyNumber : Nat → Bool := fun _ => true

/-- The numbers of the automatic fields among the pieces, without those in their layouts. -/
def topNumbers (k : Nat) : List Piece → List Nat
  | [] => []
  | .field f :: pieces =>
    let behind := topNumbers (renumber everyNumber (f.count k) f.spec).2 pieces
    if f.isAutomatic then k :: behind else behind
  | .literal _ :: pieces => topNumbers k pieces
  | .broken _ :: pieces => topNumbers k pieces

theorem topNumbers_plain {c : Char} (hopen : c ≠ '{') (hclose : c ≠ '}') :
    topNumbers k (scan (c :: s)) = topNumbers k (scan s) := by
  obtain hscan | ⟨text, pieces, hscan, hscan'⟩ := scan_plain_cases hopen hclose s
  · rw [hscan, topNumbers]
  · rw [hscan, hscan', topNumbers, topNumbers]

theorem field_mem_scan_plain {c : Char} (hopen : c ≠ '{') (hclose : c ≠ '}')
    (h : .field f ∈ scan s) : .field f ∈ scan (c :: s) := by
  obtain hscan | ⟨text, pieces, hscan, hscan'⟩ := scan_plain_cases hopen hclose s
  · rw [hscan]
    exact List.mem_cons_of_mem _ h
  · rw [hscan, List.mem_cons] at h
    rw [hscan']
    exact List.mem_cons_of_mem _ (h.resolve_left fun h => nomatch h)

/-- An automatic field with its number is numbered, without it automatic. -/
theorem Field.isAutomatic.kinds (h : f.isAutomatic = true) (hk : k ≤ maxNumber)
    (conversion : Option Char) (spec : List Char) :
    Field.isNumbered ⟨f.number chosen k ++ f.name, conversion, spec⟩ = chosen k ∧
      Field.isAutomatic ⟨f.number chosen k ++ f.name, conversion, spec⟩ = !chosen k := by
  obtain ⟨path, hread⟩ := Field.isAutomatic_iff.1 h
  obtain ⟨hname, hpath⟩ := Reference.eq_path_of_read_next hread
  cases hchosen : chosen k with
  | false =>
    have hnumber : f.number chosen k = [] := by simp [Field.number, hchosen]
    simp only [hnumber, List.nil_append, Field.isNumbered, Field.isAutomatic, hread]
    decide
  | true =>
    have hnumber : f.number chosen k = Nat.toDigits 10 k := by simp [Field.number, h, hchosen]
    simp only [hnumber, hname, Field.isNumbered, Field.isAutomatic,
      Reference.read_toDigits hk hpath]
    decide

/-- A chosen field has its number in the template, another one is left automatic. -/
theorem exists_field_renumber {i : Nat} (hmax : (renumber chosen k s).2 ≤ maxNumber)
    (hi : i ∈ topNumbers k (scan s)) :
    ∃ f, .field f ∈ scan (renumber chosen k s).1 ∧ f.isNumbered = chosen i ∧
      f.isAutomatic = !chosen i := by
  fun_induction renumber chosen k s with
  | case1 => cases hi
  | case2 k s ih =>
    rw [scan_openBrace, topNumbers] at hi
    obtain ⟨f, hf, hkinds⟩ := ih hmax hi
    refine ⟨f, ?_, hkinds⟩
    show _ ∈ scan ('{' :: '{' :: (renumber chosen k s).1)
    rw [scan_openBrace]
    exact List.mem_cons_of_mem _ hf
  | case3 k s ih =>
    rw [scan_closeBrace, topNumbers] at hi
    obtain ⟨f, hf, hkinds⟩ := ih hmax hi
    refine ⟨f, ?_, hkinds⟩
    show _ ∈ scan ('}' :: '}' :: (renumber chosen k s).1)
    rw [scan_closeBrace]
    exact List.mem_cons_of_mem _ hf
  | case4 k s hdouble fault hfield =>
    obtain ⟨fault, hscan⟩ := scan_lone_openBrace hdouble hfield
    rw [hscan] at hi
    cases hi
  | case5 k s hdouble f rest hfield spec behind ihspec ihbehind =>
    rw [scan_field hfield, topNumbers, renumber_count chosen] at hi
    have hscan : scan ('{' :: (f.number chosen k ++ f.front s rest ++ spec.1 ++ '}' :: behind.1)) =
        .field ⟨f.number chosen k ++ f.name, f.conversion, spec.1⟩ :: scan behind.1 :=
      scan_field (takeField_renumber hfield (f.count k) behind.1)
    have hbehind (hi : i ∈ topNumbers spec.2 (scan rest)) :
        ∃ f', .field f' ∈ scan ('{' :: (f.number chosen k ++ f.front s rest ++ spec.1 ++
          '}' :: behind.1)) ∧ f'.isNumbered = chosen i ∧ f'.isAutomatic = !chosen i := by
      obtain ⟨f', hf', hkinds⟩ := ihbehind hmax hi
      exact ⟨f', by rw [hscan]; exact List.mem_cons_of_mem _ hf', hkinds⟩
    dsimp only at hi ⊢
    split at hi
    · next hauto =>
      have hspec : f.count k ≤ spec.2 := renumber_count_le.1
      have hrest : spec.2 ≤ behind.2 := renumber_count_le.1
      rw [Field.count, if_pos hauto] at hspec
      obtain rfl | hi := List.mem_cons.1 hi
      · have hk : i ≤ maxNumber := by omega
        exact ⟨_, by rw [hscan]; exact List.mem_cons_self, Field.isAutomatic.kinds hauto hk _ _⟩
      · exact hbehind hi
    · exact hbehind hi
  | case6 k s hdouble =>
    rw [scan_lone_closeBrace hdouble] at hi
    cases hi
  | case7 k c s _ _ hopen hclose ih =>
    rw [topNumbers_plain hopen hclose] at hi
    obtain ⟨f, hf, hkinds⟩ := ih hmax hi
    exact ⟨f, field_mem_scan_plain hopen hclose hf, hkinds⟩

end Template

end CredentialCheck
