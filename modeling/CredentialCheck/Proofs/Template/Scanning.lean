import CredentialCheck.Proofs.Text.Decoding
import CredentialCheck.Template.Scan
import Mathlib.Data.List.TakeDrop

/-!
# Scanning a template

How a template falls into pieces, said with equations that do not mention the fuel: what stands at
the front of the template is one piece, and the rest is scanned by itself. What a field takes up of
the text does not depend on what follows it.

* `takeSpec_eq_ok_iff` says which texts are taken for a layout.
* `Field.IsWritten` says how a field is written down; `takeField_append` and `takeField_eq_ok` are
  the two directions.
* `scan_openBrace`, `scan_closeBrace`, `scan_plain` and `scan_field` are the equations.
-/

namespace CredentialCheck

/-- A sequence that has a result has one at each step. -/
theorem exists_of_bind_eq_ok {ε α β : Type} {x : Except ε α} {f : α → Except ε β} {b : β}
    (h : x.bind f = .ok b) : ∃ a, x = .ok a ∧ f a = .ok b := by
  cases x with
  | error e => cases h
  | ok a => exact ⟨a, rfl, h⟩

namespace Template

/-! ## Layouts -/

/-- How many braces are open behind a character, if `depth` are open in front of it. -/
def depthBehind (depth : Nat) (c : Char) : Option Nat :=
  if c = '}' then if depth = 0 then none else some (depth - 1)
  else some (if c = '{' then depth + 1 else depth)

/-- The same for a text, in which no brace may be closed that was not opened. -/
def depthAfter (depth : Nat) (s : List Char) : Option Nat := s.foldlM depthBehind depth

@[simp] theorem depthAfter_nil (depth : Nat) : depthAfter depth [] = some depth := rfl

theorem depthAfter_cons (depth : Nat) (c : Char) (s : List Char) :
    depthAfter depth (c :: s) = (depthBehind depth c).bind (depthAfter · s) := rfl

theorem depthAfter_append (depth : Nat) (s t : List Char) :
    depthAfter depth (s ++ t) = (depthAfter depth s).bind (depthAfter · t) :=
  List.foldlM_append

theorem takeSpec_cons (depth : Nat) (c : Char) (s : List Char) :
    takeSpec depth (c :: s) =
      match depthBehind depth c with
      | none => .ok ([], s)
      | some depth => (takeSpec depth s).map fun p => (c :: p.1, p.2) := by
  unfold depthBehind
  by_cases hc : c = '}'
  · cases depth <;> simp [takeSpec, hc]
  · simp [takeSpec, hc]

theorem depthBehind_eq_none_iff {depth : Nat} {c : Char} :
    depthBehind depth c = none ↔ c = '}' ∧ depth = 0 := by
  unfold depthBehind
  by_cases hc : c = '}' <;> simp [hc]

/-- A layout is a text in which the braces match, up to the next closing brace. -/
theorem takeSpec_eq_ok_iff {depth : Nat} {s spec rest : List Char} :
    takeSpec depth s = .ok (spec, rest) ↔
      s = spec ++ '}' :: rest ∧ depthAfter depth spec = some 0 := by
  induction s generalizing depth spec with
  | nil => simp [takeSpec]
  | cons c s ih =>
    rw [takeSpec_cons]
    cases hdepth : depthBehind depth c with
    | none =>
      obtain ⟨rfl, rfl⟩ := depthBehind_eq_none_iff.1 hdepth
      cases spec with
      | nil => simp
      | cons d spec =>
        -- the brace that ends the layout cannot be in it
        rw [depthAfter_cons]
        constructor
        · intro h
          cases h
        · rintro ⟨heq, hspec⟩
          rw [(List.cons.inj heq).1.symm, hdepth] at hspec
          cases hspec
    | some d =>
      constructor
      · intro h
        obtain ⟨⟨spec', rest'⟩, htake, heq⟩ := exists_of_map_eq_ok h
        cases heq
        obtain ⟨rfl, hspec⟩ := ih.1 htake
        exact ⟨rfl, by rw [depthAfter_cons, hdepth]; exact hspec⟩
      · rintro ⟨heq, hspec⟩
        cases spec with
        | nil =>
          have hnone := depthBehind_eq_none_iff.2 ⟨(List.cons.inj heq).1, Option.some.inj hspec⟩
          rw [hnone] at hdepth
          cases hdepth
        | cons d' spec =>
          obtain ⟨rfl, hs⟩ := List.cons.inj heq
          rw [depthAfter_cons, hdepth] at hspec
          show (takeSpec d s).map _ = _
          rw [ih.2 ⟨hs, hspec⟩]
          rfl

/-! ## Names -/

/-- The marks that end a name. -/
def EndsName (mark : Char) : Prop := mark = '}' ∨ mark = ':' ∨ mark = '!'

theorem takeName_mark {mark : Char} (h : EndsName mark) (rest : List Char) :
    takeName false (mark :: rest) = .ok ([], mark, rest) := by
  have hopen : mark ≠ '{' := by
    obtain rfl | rfl | rfl := h <;> decide
  rw [takeName, if_neg hopen]
  exact if_pos h

/-- A name ends at a mark, whichever it is and whatever follows it. -/
theorem takeName_eq_ok {inBrackets : Bool} {s name rest : List Char} {mark : Char}
    (h : takeName inBrackets s = .ok (name, mark, rest)) :
    s = name ++ mark :: rest ∧ EndsName mark ∧
      ∀ mark' rest', EndsName mark' →
        takeName inBrackets (name ++ mark' :: rest') = .ok (name, mark', rest') := by
  induction s generalizing inBrackets name with
  | nil => cases h
  | cons c s ih =>
    cases inBrackets with
    | true =>
      rw [takeName] at h
      obtain ⟨⟨name', mark', rest'⟩, htake, heq⟩ := exists_of_map_eq_ok h
      cases heq
      obtain ⟨rfl, hmark, hreplay⟩ := ih htake
      refine ⟨rfl, hmark, fun mark' rest' hmark' => ?_⟩
      rw [List.cons_append, takeName, hreplay mark' rest' hmark']
      rfl
    | false =>
      rw [takeName] at h
      split at h
      · cases h
      next hopen =>
      split at h
      · next hmark =>
        cases h
        exact ⟨rfl, hmark, fun mark' rest' hmark' => takeName_mark hmark' rest'⟩
      · next hmark =>
        obtain ⟨⟨name', mark', rest'⟩, htake, heq⟩ := exists_of_map_eq_ok h
        cases heq
        obtain ⟨rfl, hend, hreplay⟩ := ih htake
        refine ⟨rfl, hend, fun mark' rest' hmark' => ?_⟩
        rw [List.cons_append, takeName, if_neg hopen, if_neg hmark, hreplay mark' rest' hmark']
        rfl

/-- A text that is taken for a name up to any mark. -/
def IsName (name : List Char) : Prop :=
  ∀ mark rest, EndsName mark → takeName false (name ++ mark :: rest) = .ok (name, mark, rest)

theorem isName_nil : IsName [] := fun _ rest h => takeName_mark h rest

/-- The characters that mean nothing in a name. -/
def isNameChar (c : Char) : Bool := c ∉ ['{', '}', '[', ':', '!']

/-- Such characters are taken into a name. -/
theorem takeName_append {text : List Char} (h : ∀ c ∈ text, isNameChar c = true) (s : List Char) :
    takeName false (text ++ s) =
      (takeName false s).map fun p => (text ++ p.1, p.2.1, p.2.2) := by
  induction text with
  | nil =>
    rw [List.nil_append]
    cases takeName false s <;> rfl
  | cons c text ih =>
    have hc := h c List.mem_cons_self
    simp only [isNameChar, decide_eq_true_eq] at hc
    have hopen : c ≠ '{' := by rintro rfl; exact hc (by decide)
    have hmark : ¬ (c = '}' ∨ c = ':' ∨ c = '!') := by
      rintro (rfl | rfl | rfl) <;> exact hc (by decide)
    have hbracket : decide (c = '[') = false :=
      decide_eq_false (by rintro rfl; exact hc (by decide))
    rw [List.cons_append, takeName, if_neg hopen, if_neg hmark, hbracket,
      ih fun d hd => h d (List.mem_cons_of_mem c hd)]
    cases takeName false s <;> rfl

theorem IsName.append {name text : List Char} (h : IsName name)
    (htext : ∀ c ∈ text, isNameChar c = true) : IsName (text ++ name) := by
  intro mark rest hmark
  rw [List.append_assoc, takeName_append htext, h mark rest hmark]
  rfl

/-- They open no braces and close none. -/
theorem depthAfter_of_isNameChar (depth : Nat) {text : List Char}
    (h : ∀ c ∈ text, isNameChar c = true) : depthAfter depth text = some depth := by
  induction text with
  | nil => rfl
  | cons c text ih =>
    have hc := h c List.mem_cons_self
    have hopen : c ≠ '{' := by rintro rfl; exact absurd hc (by decide)
    have hclose : c ≠ '}' := by rintro rfl; exact absurd hc (by decide)
    rw [depthAfter_cons, depthBehind, if_neg hclose, if_neg hopen]
    exact ih fun d hd => h d (List.mem_cons_of_mem c hd)

/-! ## Fields -/

/-- What stands between the name of a field and its layout, or its end if it has none. -/
inductive Marks : (conversion : Option Char) → (spec : List Char) → List Char → Prop
  | none : Marks none [] []
  | layout (spec : List Char) : Marks none spec [':']
  | conversion (c : Char) : Marks (some c) [] ['!', c]
  | both (c : Char) (spec : List Char) : Marks (some c) spec ['!', c, ':']

/-- The marks do not depend on what the layout is, if there is any. -/
theorem Marks.of_imp {conversion : Option Char} {spec spec' marks : List Char}
    (h : Marks conversion spec marks) (hempty : spec = [] → spec' = []) :
    Marks conversion spec' marks := by
  cases h with
  | none =>
    rw [hempty rfl]
    exact .none
  | layout => exact .layout spec'
  | conversion c =>
    rw [hempty rfl]
    exact .conversion c
  | both c => exact .both c spec'

/-- The parts of a field can be told apart: the name by the mark behind it, the layout by the braces
in it. -/
structure Field.IsWritten (f : Field) (marks : List Char) : Prop where
  name : IsName f.name
  marks : Marks f.conversion f.spec marks
  spec : depthAfter 0 f.spec = some 0

theorem takeSpec_append {spec : List Char} (h : depthAfter 0 spec = some 0) (rest : List Char) :
    takeSpec 0 (spec ++ '}' :: rest) = .ok (spec, rest) :=
  takeSpec_eq_ok_iff.2 ⟨rfl, h⟩

/-- A field that was written down is taken. -/
theorem takeField_append {f : Field} {marks : List Char} (h : f.IsWritten marks)
    (rest : List Char) :
    takeField (f.name ++ marks ++ f.spec ++ '}' :: rest) = .ok (f, rest) := by
  obtain ⟨name, conversion, spec⟩ := f
  obtain ⟨hname, hmarks, hspec⟩ := h
  have htake (mark : Char) (hmark : EndsName mark) (t : List Char) :
      takeName false (name ++ mark :: t) = .ok (name, mark, t) := hname mark t hmark
  rw [takeField]
  simp only [List.append_assoc]
  cases hmarks with
  | none =>
    simp only [List.nil_append, htake '}' (.inl rfl), bind, Except.bind, if_true]
    rfl
  | layout =>
    simp only [List.cons_append, List.nil_append, htake ':' (.inr (.inl rfl)),
      takeSpec_append hspec, bind, Except.bind]
    rfl
  | conversion c =>
    simp only [List.cons_append, List.nil_append, htake '!' (.inr (.inr rfl)), bind, Except.bind]
    rfl
  | both c =>
    simp only [List.cons_append, List.nil_append, htake '!' (.inr (.inr rfl)),
      takeSpec_append hspec, bind, Except.bind]
    rfl

/-- What is taken for a field was written down as one. -/
theorem takeField_eq_ok {s rest : List Char} {f : Field} (h : takeField s = .ok (f, rest)) :
    ∃ marks, f.IsWritten marks ∧ s = f.name ++ marks ++ f.spec ++ '}' :: rest := by
  rw [takeField] at h
  obtain ⟨⟨name, mark, behind⟩, htake, hbehind⟩ := exists_of_bind_eq_ok h
  clear h
  obtain ⟨rfl, hmark, hname⟩ := takeName_eq_ok htake
  obtain rfl | rfl | rfl := hmark
  · cases hbehind
    exact ⟨[], ⟨hname, .none, rfl⟩, by simp⟩
  · obtain ⟨⟨spec, rest'⟩, hspec, heq⟩ := exists_of_bind_eq_ok hbehind
    cases heq
    obtain ⟨rfl, hdepth⟩ := takeSpec_eq_ok_iff.1 hspec
    exact ⟨[':'], ⟨hname, .layout spec, hdepth⟩, by simp⟩
  · simp only [Char.reduceEq, if_false] at hbehind
    split at hbehind
    · cases hbehind
    next c behind =>
    split at hbehind
    · cases hbehind
    · cases hbehind
      exact ⟨['!', c], ⟨hname, .conversion c, rfl⟩, by simp⟩
    · obtain ⟨⟨spec, rest'⟩, hspec, heq⟩ := exists_of_bind_eq_ok hbehind
      cases heq
      obtain ⟨rfl, hdepth⟩ := takeSpec_eq_ok_iff.1 hspec
      exact ⟨['!', c, ':'], ⟨hname, .both c spec, hdepth⟩, by simp⟩
    · cases hbehind

/-! ## Pieces -/

/-- What a field leaves is shorter. -/
theorem length_lt_of_takeField {s rest : List Char} {f : Field} (h : takeField s = .ok (f, rest)) :
    rest.length < s.length := by
  obtain ⟨marks, -, rfl⟩ := takeField_eq_ok h
  simp only [List.length_append, List.length_cons]
  omega

theorem takeLiteral_cons {c : Char} (hopen : c ≠ '{') (hclose : c ≠ '}') (s : List Char) :
    takeLiteral (c :: s) = (c :: (takeLiteral s).1, (takeLiteral s).2) := by
  simp [takeLiteral, List.span_eq_takeWhile_dropWhile, hopen, hclose]

theorem takeLiteral_brace {c : Char} (h : ¬ (c ≠ '{' ∧ c ≠ '}')) (s : List Char) :
    takeLiteral (c :: s) = ([], c :: s) := by
  simp [takeLiteral, List.span_eq_takeWhile_dropWhile, h]

theorem length_takeLiteral_le (s : List Char) : (takeLiteral s).2.length ≤ s.length := by
  rw [takeLiteral, List.span_eq_takeWhile_dropWhile]
  exact (List.dropWhile_suffix _).length_le

theorem scanFrom_plain {c : Char} (hopen : c ≠ '{') (hclose : c ≠ '}') (fuel : Nat)
    (s : List Char) : scanFrom (fuel + 1) (c :: s) =
      .literal (c :: (takeLiteral s).1) :: scanFrom fuel (takeLiteral s).2 := by
  rw [scanFrom, takeLiteral_cons hopen hclose]
  · intro heq
    cases heq
  · rintro s ⟨⟩
    exact hopen rfl
  · rintro s ⟨⟩
    exact hclose rfl

theorem scanFrom_field {s rest : List Char} {f : Field} (h : takeField s = .ok (f, rest))
    (fuel : Nat) : scanFrom (fuel + 1) ('{' :: s) = .field f :: scanFrom fuel rest := by
  rw [scanFrom, h]
  · rintro rfl
    cases h
  · rintro t rfl
    cases h

theorem scanFrom_open {s : List Char} {fault : Fault} (hne : s ≠ []) (hdouble : ∀ t, s ≠ '{' :: t)
    (h : takeField s = .error fault) (fuel : Nat) :
    scanFrom (fuel + 1) ('{' :: s) = [.broken fault] := by
  rw [scanFrom, h]
  · exact hne
  · exact hdouble

theorem scanFrom_close {s : List Char} (h : ∀ t, s ≠ '}' :: t) (fuel : Nat) :
    scanFrom (fuel + 1) ('}' :: s) = [.broken .loneCloseBrace] := by
  rw [scanFrom]
  exact h

/-- The first piece is the same with any fuel, and the others are those of a shorter text. -/
theorem scanFrom_succ_congr {fuel fuel' : Nat} {s : List Char}
    (h : ∀ t : List Char, t.length < s.length → scanFrom fuel t = scanFrom fuel' t) :
    scanFrom (fuel + 1) s = scanFrom (fuel' + 1) s := by
  cases s with
  | nil => rfl
  | cons c s =>
    have hrest {t : List Char} (ht : t.length ≤ s.length) : scanFrom fuel t = scanFrom fuel' t :=
      h t (Nat.lt_succ_of_le ht)
    by_cases hopen : c = '{'
    · subst hopen
      by_cases hne : s = []
      · subst hne
        rfl
      by_cases hdouble : ∃ t, s = '{' :: t
      · obtain ⟨t, rfl⟩ := hdouble
        exact congrArg (_ :: ·) (hrest (Nat.le_succ _))
      · have hsingle : ∀ t, s ≠ '{' :: t := fun t ht => hdouble ⟨t, ht⟩
        cases hfield : takeField s with
        | error fault =>
          rw [scanFrom_open hne hsingle hfield, scanFrom_open hne hsingle hfield]
        | ok p =>
          rw [scanFrom_field hfield, scanFrom_field hfield,
            hrest (Nat.le_of_lt (length_lt_of_takeField hfield))]
    by_cases hclose : c = '}'
    · subst hclose
      by_cases hdouble : ∃ t, s = '}' :: t
      · obtain ⟨t, rfl⟩ := hdouble
        exact congrArg (_ :: ·) (hrest (Nat.le_succ _))
      · have hsingle : ∀ t, s ≠ '}' :: t := fun t ht => hdouble ⟨t, ht⟩
        rw [scanFrom_close hsingle, scanFrom_close hsingle]
    · rw [scanFrom_plain hopen hclose, scanFrom_plain hopen hclose,
        hrest (length_takeLiteral_le s)]

/-- Fuel for every character suffices. -/
theorem scanFrom_eq_scan {fuel : Nat} {s : List Char} (h : s.length ≤ fuel) :
    scanFrom fuel s = scan s := by
  suffices key : ∀ fuel' : Nat, s.length ≤ fuel' → scanFrom fuel s = scanFrom fuel' s from
    key s.length (Nat.le_refl _)
  induction fuel generalizing s with
  | zero =>
    intro fuel' _
    obtain rfl := List.eq_nil_of_length_eq_zero (Nat.le_zero.1 h)
    cases fuel' <;> rfl
  | succ fuel ih =>
    intro fuel' hfuel'
    cases fuel' with
    | zero =>
      obtain rfl := List.eq_nil_of_length_eq_zero (Nat.le_zero.1 hfuel')
      rfl
    | succ fuel' =>
      exact scanFrom_succ_congr fun t ht => ih (by omega) fuel' (by omega)

/-! ### What stands in front -/

@[simp] theorem scan_nil : scan [] = [] := rfl

theorem scan_openBrace (s : List Char) : scan ('{' :: '{' :: s) = .literal ['{'] :: scan s := by
  show Piece.literal ['{'] :: scanFrom (s.length + 1) s = _
  rw [scanFrom_eq_scan (Nat.le_succ _)]

theorem scan_closeBrace (s : List Char) : scan ('}' :: '}' :: s) = .literal ['}'] :: scan s := by
  show Piece.literal ['}'] :: scanFrom (s.length + 1) s = _
  rw [scanFrom_eq_scan (Nat.le_succ _)]

theorem scan_plain {c : Char} (hopen : c ≠ '{') (hclose : c ≠ '}') (s : List Char) :
    scan (c :: s) = .literal (c :: (takeLiteral s).1) :: scan (takeLiteral s).2 := by
  show scanFrom (s.length + 1) (c :: s) = _
  rw [scanFrom_plain hopen hclose, scanFrom_eq_scan (length_takeLiteral_le s)]

/-- A character that is no brace is a literal by itself, or belongs to the one behind it. -/
theorem scan_plain_cases {c : Char} (hopen : c ≠ '{') (hclose : c ≠ '}') (s : List Char) :
    scan (c :: s) = .literal [c] :: scan s ∨
    ∃ text pieces, scan s = .literal text :: pieces ∧
      scan (c :: s) = .literal (c :: text) :: pieces := by
  rw [scan_plain hopen hclose]
  cases s with
  | nil => exact .inl rfl
  | cons d s =>
    by_cases hd : d ≠ '{' ∧ d ≠ '}'
    · obtain ⟨hdopen, hdclose⟩ := hd
      refine .inr ⟨_, _, scan_plain hdopen hdclose s, ?_⟩
      rw [takeLiteral_cons hdopen hdclose]
    · rw [takeLiteral_brace hd]
      exact .inl rfl

theorem scan_field {s rest : List Char} {f : Field} (h : takeField s = .ok (f, rest)) :
    scan ('{' :: s) = .field f :: scan rest := by
  show scanFrom (s.length + 1) ('{' :: s) = _
  rw [scanFrom_field h, scanFrom_eq_scan (Nat.le_of_lt (length_lt_of_takeField h))]

/-- A brace that neither opens a field nor is doubled. -/
theorem scan_lone_openBrace {s : List Char} {fault : Fault} (hdouble : ∀ t, s ≠ '{' :: t)
    (h : takeField s = .error fault) : ∃ fault, scan ('{' :: s) = [.broken fault] := by
  show ∃ fault, scanFrom (s.length + 1) ('{' :: s) = _
  by_cases hne : s = []
  · exact ⟨.loneOpenBrace, by rw [hne]; rfl⟩
  · exact ⟨fault, scanFrom_open hne hdouble h s.length⟩

theorem scan_lone_closeBrace {s : List Char} (hdouble : ∀ t, s ≠ '}' :: t) :
    scan ('}' :: s) = [.broken .loneCloseBrace] :=
  scanFrom_close hdouble s.length

end Template

end CredentialCheck
