import CredentialCheck.Proofs.Template.Renaming

/-!
# Numbering by order and by numbers

A template whose positional fields have no numbers comes to the same as the template in which each
has its own: the count runs on through layouts in the order of the opening braces, which is the
order in which the fields are filled in. A template in which fields of both kinds stand side by side
is a fault at the first field that names its argument in the other way.

* `alike_fillTo` runs both templates side by side, and `fillPieces_switches` fills in a template of
  both kinds.
* `ValidationError.ofCall_numbered` is the statement about the calls that make an error.
-/

namespace CredentialCheck

namespace Template

variable {chosen : Nat → Bool} {k : Nat} {s rest : List Char} {f : Field}
variable {args : Arguments} {n n' : Numbering}
  {fillSpec : Numbering → List Char → Except Fault (List Char × Numbering)}

/-! ## Two numberings side by side -/

/-- The same argument is next by its order and by its number. -/
inductive Abreast : (k : Nat) → Numbering → Numbering → Prop
  | undecided : Abreast 0 .undecided .undecided
  | counted {k : Nat} : Abreast k (.automatic k) .explicit

/-- The same text or the same fault. -/
inductive Alike (k : Nat) :
    Except Fault (List Char × Numbering) → Except Fault (List Char × Numbering) → Prop
  | error (fault : Fault) : Alike k (.error fault) (.error fault)
  | ok {n n' : Numbering} (text : List Char) (h : Abreast k n n') :
      Alike k (.ok (text, n)) (.ok (text, n'))

theorem Alike.bind {k k' : Nat} {x y : Except Fault (List Char × Numbering)}
    {g h : List Char × Numbering → Except Fault (List Char × Numbering)} (hxy : Alike k x y)
    (hgh : ∀ text n n', Abreast k n n' → Alike k' (g (text, n)) (h (text, n'))) :
    Alike k' (x.bind g) (y.bind h) := by
  cases hxy with
  | error fault => exact .error fault
  | ok text hn => exact hgh text _ _ hn

theorem Alike.map_putBefore {x y : Except Fault (List Char × Numbering)} (hxy : Alike k x y)
    (text : List Char) : Alike k (x.map (putBefore text)) (y.map (putBefore text)) := by
  cases hxy with
  | error fault => exact .error fault
  | ok _ hn => exact .ok _ hn

/-- An automatic field and the same field with its number find the same argument. -/
theorem Abreast.resolve (h : Abreast k n n') :
    (∃ fault, args.resolve n .next = .error fault ∧ args.resolve n' (.position k) = .error fault) ∨
    ∃ v m m', args.resolve n .next = .ok (v, m) ∧ args.resolve n' (.position k) = .ok (v, m') ∧
      Abreast (k + 1) m m' := by
  have hnext : args.resolve n .next = (args.atPosition k).map (·, .automatic (k + 1)) := by
    cases h <;> rfl
  have hnumber : args.resolve n' (.position k) = (args.atPosition k).map (·, .explicit) := by
    cases h <;> rfl
  rw [hnext, hnumber, Arguments.atPosition]
  cases args.positional[k]? with
  | none => exact .inl ⟨_, rfl, rfl⟩
  | some v => exact .inr ⟨v, _, _, rfl, rfl, .counted⟩

/-- The same layout shows the same of an argument. -/
theorem Alike.present {x y : Except Fault (List Char × Numbering)} (hxy : Alike k x y)
    (conversion : Option Char) (path : List Char) (v : Value) :
    Alike k (present conversion path v x) (present conversion path v y) := by
  unfold Template.present
  cases (follow v path).bind (·.convert conversion) with
  | error fault => exact .error fault
  | ok shown =>
    refine hxy.bind fun text n n' hn => ?_
    dsimp only
    cases shown.format text with
    | error fault => exact .error fault
    | ok t => exact .ok t hn

/-- A field in front of which nothing is numbered, and the same field with its number. -/
theorem alike_fillField {fillSpec' : Numbering → List Char → Except Fault (List Char × Numbering)}
    {spec' : List Char} {k' : Nat} (hk : f.count k ≤ maxNumber)
    (hn : Abreast k n n') (hf : f.isNumbered = false)
    (hspec : ∀ m m', Abreast (f.count k) m m' →
      Alike k' (fillLayout fillSpec m f.spec) (fillLayout fillSpec' m' spec')) :
    Alike k' (fillField args fillSpec n f)
      (fillField args fillSpec' n' ⟨f.number everyNumber k ++ f.name, f.conversion, spec'⟩) := by
  cases hread : Reference.read f.name with
  | error fault =>
    have hauto : f.isAutomatic = false := by rw [Field.isAutomatic, hread]
    have hread' : Reference.read (f.number everyNumber k ++ f.name) = .error fault := by
      rw [Field.number_of_not_isAutomatic hauto, List.nil_append, hread]
    rw [fillField_of_read_eq_error hread, fillField_of_read_eq_error hread']
    exact .error fault
  | ok p =>
    obtain ⟨reference, path⟩ := p
    cases reference with
    | next =>
      have hauto : f.isAutomatic = true := Field.isAutomatic_iff.2 ⟨path, hread⟩
      have hcount : f.count k = k + 1 := by rw [Field.count, if_pos hauto]
      obtain ⟨hname, hpath⟩ := Reference.eq_path_of_read_next hread
      have hread' : Reference.read (f.number everyNumber k ++ f.name) =
          .ok (.position k, path) := by
        rw [Field.number, if_pos ⟨hauto, rfl⟩, hname]
        exact Reference.read_toDigits (by omega) hpath
      rw [fillField_eq_bind hread, fillField_eq_bind hread']
      obtain ⟨fault, hleft, hright⟩ | ⟨v, m, m', hleft, hright, hm⟩ := hn.resolve
      · rw [hleft, hright]
        exact .error fault
      · rw [hleft, hright]
        exact (hspec m m' (by rwa [hcount])).present f.conversion path v
    | position i =>
      rw [Field.isNumbered, hread] at hf
      cases hf
    | keyword name =>
      have hauto : f.isAutomatic = false := by rw [Field.isAutomatic, hread]
      have hcount : f.count k = k := by rw [Field.count, hauto, if_neg Bool.false_ne_true]
      have hread' : Reference.read (f.number everyNumber k ++ f.name) =
          .ok (.keyword name, path) := by
        rw [Field.number_of_not_isAutomatic hauto, List.nil_append, hread]
      rw [fillField_eq_bind hread, fillField_eq_bind hread']
      simp only [Arguments.resolve]
      cases args.keyword.find? (·.1 == name) with
      | none => exact .error _
      | some entry =>
        exact (hspec n n' (by rwa [hcount])).present f.conversion path entry.2

/-! ## Whole templates -/

theorem FieldIn.of_scan {t : List Char} (h : ∀ g, .field g ∈ scan s → .field g ∈ scan t)
    (hf : FieldIn f s) : FieldIn f t := by
  cases hf with
  | here hf => exact .here (h f hf)
  | inside hg hf => exact .inside (h _ hg) hf

theorem FieldIn.iff : FieldIn f s ↔ ∃ g, .field g ∈ scan s ∧ (f = g ∨ FieldIn f g.spec) := by
  constructor
  · intro h
    cases h with
    | here h => exact ⟨f, h, .inl rfl⟩
    | inside hg h => exact ⟨_, hg, .inr h⟩
  · rintro ⟨g, hg, rfl | h⟩
    · exact .here hg
    · exact .inside hg h

theorem FieldIn.literal {t : List Char} {piece : Piece} (hf : FieldIn f s)
    (h : scan t = piece :: scan s) : FieldIn f t :=
  hf.of_scan fun _ hg => by
    rw [h]
    exact List.mem_cons_of_mem piece hg

theorem alike_fillLayout {g g' : Numbering → List Char → Except Fault (List Char × Numbering)}
    {spec : List Char} (hn : Abreast k n n')
    (hg : Alike (renumber chosen k spec).2 (g n spec) (g' n' (renumber chosen k spec).1)) :
    Alike (renumber chosen k spec).2 (fillLayout g n spec)
      (fillLayout g' n' (renumber chosen k spec).1) := by
  by_cases hbrace : '{' ∈ spec
  · have hbrace' : '{' ∈ (renumber chosen k spec).1 := mem_renumber_iff.2 hbrace
    rw [fillLayout, fillLayout, if_pos (List.elem_iff.2 hbrace), if_pos (List.elem_iff.2 hbrace')]
    exact hg
  · have hnone : ¬ spec.contains '{' = true := mt List.elem_iff.1 hbrace
    rw [renumber_of_not_mem hbrace]
    dsimp only
    rw [fillLayout, fillLayout, if_neg hnone, if_neg hnone]
    exact .ok spec hn

/-- **Two numberings side by side.** -/
theorem alike_fillTo {depth : Nat} (hk : (renumber everyNumber k s).2 ≤ maxNumber)
    (hs : ∀ f, FieldIn f s → f.isNumbered = false) (hn : Abreast k n n') :
    Alike (renumber everyNumber k s).2 (fillTo args depth n s)
      (fillTo args depth n' (renumber everyNumber k s).1) := by
  induction depth generalizing k s n n' with
  | zero => exact .error _
  | succ depth ihdepth =>
    show Alike _ (fillPieces args (fillTo args depth) n (scan s))
      (fillPieces args (fillTo args depth) n' (scan (renumber everyNumber k s).1))
    fun_induction renumber everyNumber k s generalizing n n' with
    | case1 k => exact .ok [] hn
    | case2 k s ih =>
      simp only [Prod.map_fst, Prod.map_snd, id, fillPieces_openBrace]
      exact (ih hk (fun f hf => hs f (hf.literal (scan_openBrace s))) hn).map_putBefore _
    | case3 k s ih =>
      simp only [Prod.map_fst, Prod.map_snd, id, fillPieces_closeBrace]
      exact (ih hk (fun f hf => hs f (hf.literal (scan_closeBrace s))) hn).map_putBefore _
    | case4 k s hdouble fault hfield =>
      obtain ⟨fault, hscan⟩ := scan_lone_openBrace hdouble hfield
      rw [hscan]
      exact .error fault
    | case5 k s hdouble f rest hfield spec behind =>
      rename_i ihspec ihbehind
      have hscan : scan ('{' :: s) = .field f :: scan rest := scan_field hfield
      have hmem : .field f ∈ scan ('{' :: s) := by
        rw [hscan]
        exact List.mem_cons_self
      have hspec : spec.2 ≤ maxNumber := Nat.le_trans renumber_count_le.1 hk
      have hcount : f.count k ≤ maxNumber := Nat.le_trans renumber_count_le.1 hspec
      have hlayout (m m' : Numbering) (hm : Abreast (f.count k) m m') :
          Alike spec.2 (fillLayout (fillTo args depth) m f.spec)
            (fillLayout (fillTo args depth) m' spec.1) :=
        alike_fillLayout hm (ihdepth hspec (fun g hg => hs g (.inside hmem hg)) hm)
      rw [hscan, scan_field (takeField_renumber hfield _ _), fillPieces_field, fillPieces_field]
      refine (alike_fillField hcount hn (hs f (.here hmem)) hlayout).bind fun text m m' hm => ?_
      exact (ihbehind hk (fun g hg => hs g (hg.literal hscan)) hm).map_putBefore text
    | case6 k s hdouble =>
      rw [scan_lone_closeBrace hdouble]
      exact .error _
    | case7 k c s _ _ hopen hclose ih =>
      have hs' (g : Field) (hg : FieldIn g s) : g.isNumbered = false :=
        hs g (hg.of_scan fun _ h => field_mem_scan_plain hopen hclose h)
      simp only [Prod.map_fst, Prod.map_snd, id, fillPieces_plain hopen hclose]
      exact (ih hk hs' hn).map_putBefore _

/-! ## Both kinds in one template -/

/-- The field is the first that names its argument in the other way than one in front of it. -/
inductive Switches (front : List Piece) (f : Field) : Fault → Prop
  | toAutomatic (hfront : ∃ g, .field g ∈ front ∧ g.isNumbered = true)
      (hfirst : ∀ g, .field g ∈ front → g.isAutomatic = false) (hf : f.isAutomatic = true) :
      Switches front f .automaticAfterExplicit
  | toNumbered (hfront : ∃ g, .field g ∈ front ∧ g.isAutomatic = true)
      (hfirst : ∀ g, .field g ∈ front → g.isNumbered = false) (hf : f.isNumbered = true) :
      Switches front f .explicitAfterAutomatic

/-- No field is of both kinds. -/
theorem Field.isNumbered_of_isAutomatic (h : f.isAutomatic = true) : f.isNumbered = false := by
  obtain ⟨path, hread⟩ := Field.isAutomatic_iff.1 h
  rw [Field.isNumbered, hread]

section

variable (kind : Field → Bool) {pieces : List Piece}

/-- The first of the pieces that is a field of a kind. -/
theorem exists_first_field (h : ∃ f, .field f ∈ pieces ∧ kind f = true) :
    ∃ front f back, pieces = front ++ .field f :: back ∧ kind f = true ∧
      ∀ g, .field g ∈ front → kind g = false := by
  obtain ⟨f, hf, hkind⟩ := h
  induction pieces with
  | nil => cases hf
  | cons piece pieces ih =>
    by_cases hpiece : ∃ g, piece = .field g ∧ kind g = true
    · obtain ⟨g, rfl, hg⟩ := hpiece
      exact ⟨[], g, pieces, rfl, hg, fun _ h => nomatch h⟩
    · have hne : .field f ≠ piece := fun heq => hpiece ⟨f, heq.symm, hkind⟩
      obtain ⟨front, f', back, rfl, hf', hfront⟩ := ih ((List.mem_cons.1 hf).resolve_left hne)
      refine ⟨piece :: front, f', back, rfl, hf', fun g hg => ?_⟩
      obtain heq | hg := List.mem_cons.1 hg
      · exact Bool.eq_false_iff.2 fun hkind => hpiece ⟨g, heq.symm, hkind⟩
      · exact hfront g hg

/-- The first field of a kind behind one that is not. -/
theorem exists_first_field_behind {a b : List Piece} {g : Field}
    (h : ∃ f, .field f ∈ a ++ .field g :: b ∧ kind f = true)
    (ha : ∀ g, .field g ∈ a → kind g = false) (hg : kind g = false) :
    ∃ front f back, a ++ .field g :: b = front ++ .field f :: back ∧ .field g ∈ front ∧
      kind f = true ∧ ∀ g, .field g ∈ front → kind g = false := by
  obtain ⟨f, hf, hkind⟩ := h
  have hb : .field f ∈ b := by
    obtain hfa | hfb := List.mem_append.1 hf
    · rw [ha f hfa] at hkind
      cases hkind
    · refine (List.mem_cons.1 hfb).resolve_left fun heq => ?_
      cases heq
      rw [hg] at hkind
      cases hkind
  obtain ⟨front, f', back, rfl, hf', hfront⟩ := exists_first_field kind ⟨f, hb, hkind⟩
  refine ⟨a ++ .field g :: front, f', back, by simp, by simp, hf', fun g' hg' => ?_⟩
  obtain hg' | hg' := List.mem_append.1 hg'
  · exact ha g' hg'
  · obtain heq | hg' := List.mem_cons.1 hg'
    · cases heq
      exact hg
    · exact hfront g' hg'

end

theorem exists_switches {pieces : List Piece}
    (hautomatic : ∃ f, .field f ∈ pieces ∧ f.isAutomatic = true)
    (hnumbered : ∃ f, .field f ∈ pieces ∧ f.isNumbered = true) :
    ∃ front f back fault, pieces = front ++ .field f :: back ∧ Switches front f fault := by
  -- the first positional field of either kind, and the first of the other kind behind it
  have hpositional : ∃ f, .field f ∈ pieces ∧ (f.isAutomatic || f.isNumbered) = true := by
    obtain ⟨f, hf, hkind⟩ := hautomatic
    exact ⟨f, hf, by rw [hkind, Bool.true_or]⟩
  obtain ⟨a, g, b, rfl, hg, ha⟩ :=
    exists_first_field (fun f => f.isAutomatic || f.isNumbered) hpositional
  obtain hg | hg := Bool.or_eq_true_iff.1 hg
  · obtain ⟨front, f, back, heq, hmem, hf, hfront⟩ := exists_first_field_behind _ hnumbered
      (fun g hg => (Bool.or_eq_false_iff.1 (ha g hg)).2) (Field.isNumbered_of_isAutomatic hg)
    exact ⟨front, f, back, _, heq, .toNumbered ⟨g, hmem, hg⟩ hfront hf⟩
  · have hnot : g.isAutomatic = false := Bool.eq_false_iff.2 fun h => by
      rw [Field.isNumbered_of_isAutomatic h] at hg
      cases hg
    obtain ⟨front, f, back, heq, hmem, hf, hfront⟩ := exists_first_field_behind _ hautomatic
      (fun g hg => (Bool.or_eq_false_iff.1 (ha g hg)).1) hnot
    exact ⟨front, f, back, _, heq, .toAutomatic ⟨g, hmem, hg⟩ hfront hf⟩

/-! ### What a field leaves behind -/

theorem resolve_next_eq_ok {v : Value} (h : args.resolve n .next = .ok (v, n')) :
    ∃ k, n' = .automatic k := by
  cases n with
  | explicit => cases h
  | undecided =>
    obtain ⟨w, -, heq⟩ := exists_of_map_eq_ok h
    cases heq
    exact ⟨1, rfl⟩
  | automatic k =>
    obtain ⟨w, -, heq⟩ := exists_of_map_eq_ok h
    cases heq
    exact ⟨k + 1, rfl⟩

theorem resolve_position_eq_ok {i : Nat} {v : Value}
    (h : args.resolve n (.position i) = .ok (v, n')) : n' = .explicit := by
  cases n with
  | automatic k => cases h
  | undecided =>
    obtain ⟨w, -, heq⟩ := exists_of_map_eq_ok h
    cases heq
    rfl
  | explicit =>
    obtain ⟨w, -, heq⟩ := exists_of_map_eq_ok h
    cases heq
    rfl

theorem resolve_keyword_eq_ok {name : String} {v : Value}
    (h : args.resolve n (.keyword name) = .ok (v, n')) : n' = n := by
  simp only [Arguments.resolve] at h
  split at h
  · cases h
    rfl
  · cases h

/-- A way of naming arguments that no field leaves. -/
def Lasts (args : Arguments) (P : Numbering → Prop) : Prop :=
  ∀ n reference v n', P n → args.resolve n reference = .ok (v, n') → P n'

theorem lasts_explicit : Lasts args (· = .explicit) := by
  rintro n reference v n' rfl h
  cases reference with
  | next => cases h
  | position i => exact resolve_position_eq_ok h
  | keyword name => exact resolve_keyword_eq_ok h

theorem lasts_automatic : Lasts args (fun n => ∃ k, n = .automatic k) := by
  rintro n reference v n' ⟨k, rfl⟩ h
  cases reference with
  | next => exact resolve_next_eq_ok h
  | position i => cases h
  | keyword name => exact ⟨k, resolve_keyword_eq_ok h⟩

/-- What a field that was filled in has gone through. -/
theorem fillField_eq_ok {text : List Char} (h : fillField args fillSpec n f = .ok (text, n')) :
    ∃ reference path v m spec, Reference.read f.name = .ok (reference, path) ∧
      args.resolve n reference = .ok (v, m) ∧ fillLayout fillSpec m f.spec = .ok (spec, n') := by
  cases hread : Reference.read f.name with
  | error fault =>
    rw [fillField_of_read_eq_error hread] at h
    cases h
  | ok p =>
    obtain ⟨reference, path⟩ := p
    rw [fillField_eq_bind hread] at h
    obtain ⟨⟨v, m⟩, hresolve, h⟩ := exists_of_bind_eq_ok h
    obtain ⟨x, -, h⟩ := exists_of_bind_eq_ok h
    obtain ⟨⟨spec, n''⟩, hspec, h⟩ := exists_of_bind_eq_ok h
    obtain ⟨shown, -, heq⟩ := exists_of_map_eq_ok h
    cases heq
    exact ⟨reference, path, v, m, spec, rfl, hresolve, hspec⟩

/-- A field after which the numbering is of a kind. -/
def Field.Brings (f : Field) (args : Arguments) (P : Numbering → Prop) : Prop :=
  ∀ reference path n v n', Reference.read f.name = .ok (reference, path) →
    args.resolve n reference = .ok (v, n') → P n'

theorem Field.brings_explicit (h : f.isNumbered = true) : f.Brings args (· = .explicit) := by
  intro reference path n v n' hread hresolve
  rw [Field.isNumbered, hread] at h
  cases reference with
  | position i => exact resolve_position_eq_ok hresolve
  | next => cases h
  | keyword name => cases h

theorem Field.brings_automatic (h : f.isAutomatic = true) :
    f.Brings args (fun n => ∃ k, n = .automatic k) := by
  intro reference path n v n' hread hresolve
  rw [Field.isAutomatic, hread] at h
  cases reference with
  | next => exact resolve_next_eq_ok hresolve
  | position i => cases h
  | keyword name => cases h

section

variable {P : Numbering → Prop} {text : List Char}

theorem Lasts.fillField (hP : Lasts args P)
    (hspec : ∀ n s text n', P n → fillSpec n s = .ok (text, n') → P n')
    (h : P n ∨ f.Brings args P) (hfill : fillField args fillSpec n f = .ok (text, n')) : P n' := by
  obtain ⟨reference, path, v, m, spec, hread, hresolve, hlayout⟩ := fillField_eq_ok hfill
  have hm : P m := h.elim (fun hn => hP n reference v m hn hresolve) fun hf =>
    hf reference path n v m hread hresolve
  unfold fillLayout at hlayout
  split at hlayout
  · exact hspec m f.spec spec n' hm hlayout
  · cases hlayout
    exact hm

/-- It lasts through all the pieces once a field has brought it about. -/
theorem Lasts.fillPieces (hP : Lasts args P)
    (hspec : ∀ n s text n', P n → fillSpec n s = .ok (text, n') → P n') {pieces : List Piece}
    (h : P n ∨ ∃ f, .field f ∈ pieces ∧ f.Brings args P)
    (hfill : fillPieces args fillSpec n pieces = .ok (text, n')) : P n' := by
  induction pieces generalizing n text with
  | nil =>
    cases hfill
    exact h.resolve_right fun ⟨f, hf, _⟩ => nomatch hf
  | cons piece pieces ih =>
    cases piece with
    | literal t =>
      rw [fillPieces_literal] at hfill
      obtain ⟨p, hrest, heq⟩ := exists_of_map_eq_ok hfill
      cases heq
      refine ih (h.imp_right fun ⟨f, hf, hbrings⟩ => ?_) hrest
      exact ⟨f, (List.mem_cons.1 hf).resolve_left fun heq => (nomatch heq), hbrings⟩
    | field g =>
      rw [fillPieces_field] at hfill
      obtain ⟨⟨t, m⟩, hg, hfill⟩ := exists_of_bind_eq_ok hfill
      obtain ⟨p, hrest, heq⟩ := exists_of_map_eq_ok hfill
      cases heq
      refine ih ?_ hrest
      obtain hn | ⟨f, hf, hbrings⟩ := h
      · exact .inl (hP.fillField hspec (.inl hn) hg)
      · obtain heq | hf := List.mem_cons.1 hf
        · cases heq
          exact .inl (hP.fillField hspec (.inr hbrings) hg)
        · exact .inr ⟨f, hf, hbrings⟩
    | broken fault => cases hfill

theorem Lasts.fillTo (hP : Lasts args P) {depth : Nat} (h : P n)
    (hfill : fillTo args depth n s = .ok (text, n')) : P n' := by
  induction depth generalizing n n' s text with
  | zero => cases hfill
  | succ depth ih => exact hP.fillPieces (fun n s text n' hn => ih hn) (.inl h) hfill

end

/-- What stands in front of the field is filled in, and then there is a fault. -/
theorem fillPieces_switches {front back : List Piece} {fault : Fault} {depth : Nat}
    (h : Switches front f fault) :
    fillPieces args (fillTo args depth) n (front ++ .field f :: back) =
      (fillPieces args (fillTo args depth) n front).bind fun _ => .error fault := by
  rw [fillPieces_append]
  cases hfront : fillPieces args (fillTo args depth) n front with
  | error e => rfl
  | ok p =>
    obtain ⟨text, m⟩ := p
    show (fillPieces args (fillTo args depth) m (.field f :: back)).map _ = .error fault
    rw [fillPieces_field]
    cases h with
    | toAutomatic hnumbered hfirst hf =>
      obtain ⟨g, hg, hkind⟩ := hnumbered
      have hm : m = .explicit :=
        lasts_explicit.fillPieces (fun _ _ _ _ hn => lasts_explicit.fillTo hn)
          (.inr ⟨g, hg, Field.brings_explicit hkind⟩) hfront
      obtain ⟨path, hread⟩ := Field.isAutomatic_iff.1 hf
      rw [fillField_eq_bind hread, hm]
      rfl
    | toNumbered hautomatic hfirst hf =>
      obtain ⟨g, hg, hkind⟩ := hautomatic
      obtain ⟨k, hm⟩ := lasts_automatic.fillPieces (fun _ _ _ _ hn => lasts_automatic.fillTo hn)
        (.inr ⟨g, hg, Field.brings_automatic hkind⟩) hfront
      obtain ⟨i, path, hread⟩ := Field.isNumbered_iff.1 hf
      rw [fillField_eq_bind hread, hm]
      rfl

/-- The template with numbers for the automatic fields that are chosen. -/
def numbered (chosen : Nat → Bool) (template : String) : String :=
  String.ofList (renumber chosen 0 template.toList).1

/-- Every number that a field of a text is given can be named. -/
theorem renumber_count_le_maxNumber {template : String} (h : template.length ≤ maxNumber) :
    (renumber chosen 0 template.toList).2 ≤ maxNumber := by
  have hcount : (renumber chosen 0 template.toList).2 ≤ 0 + template.toList.length :=
    renumber_count_le.2
  rw [String.length_toList, Nat.zero_add] at hcount
  exact Nat.le_trans hcount h

theorem fill_numbered {template : String} (h : template.length ≤ maxNumber)
    (hnone : ∀ f, FieldIn f template.toList → f.isNumbered = false) :
    fill args (numbered everyNumber template) = fill args template := by
  rw [fill, fill, numbered, String.toList_ofList]
  generalize hleft : fillTo args 2 .undecided (renumber everyNumber 0 template.toList).1 = x
  generalize hright : fillTo args 2 .undecided template.toList = y
  have halike : Alike _ (fillTo args 2 .undecided template.toList)
      (fillTo args 2 .undecided (renumber everyNumber 0 template.toList).1) :=
    alike_fillTo (renumber_count_le_maxNumber h) hnone .undecided
  rw [hleft, hright] at halike
  cases halike <;> rfl

end Template

namespace ValidationError

open Template

theorem ofCall_congr {t t' : String} {args : List Value} {kw : List (String × Value)}
    (h : make (.string t) ⟨args, kw⟩ = make (.string t') ⟨args, kw⟩) :
    ofCall (.string t :: args) kw = ofCall (.string t' :: args) kw := by
  simp only [ofCall]
  cases (kw.find? (·.1 == "message")).map Prod.snd with
  | none => exact congrArg (Except.mapError CallFault.template) h
  | some message => rfl

/-- **Numbering by order and by numbers.** Numbers for all the positional fields of a template that
has none make no difference. Numbers for some of its fields outside layouts, but not for all, are a
fault at the first field of the other kind, if there is none in front of it. No text is longer than
the greatest number. -/
theorem ofCall_numbered :
    (∀ (t : String) (args : List Value) (kw : List (String × Value)),
      t.length ≤ maxNumber → (args ≠ [] ∨ kw ≠ []) →
        (∀ f, FieldIn f t.toList → f.isNumbered = false) →
          ofCall (.string (numbered everyNumber t) :: args) kw = ofCall (.string t :: args) kw) ∧
    ∀ (t : String) (args : List Value) (kw : List (String × Value)) (chosen : Nat → Bool),
      t.length ≤ maxNumber → (args ≠ [] ∨ kw ≠ []) → (∀ e ∈ kw, e.1 ≠ "message") →
        (∃ i ∈ topNumbers 0 (scan t.toList), chosen i = true) →
        (∃ i ∈ topNumbers 0 (scan t.toList), chosen i = false) →
          ∃ front f back fault, scan (numbered chosen t).toList = front ++ .field f :: back ∧
            Switches front f fault ∧
            ofCall (.string (numbered chosen t) :: args) kw = .error (.template
              (match fillPieces ⟨args, kw⟩ (fillTo ⟨args, kw⟩ 1) .undecided front with
                | .error earlier => earlier
                | .ok _ => fault)) := by
  constructor
  · intro t args kw hlength hargs hnone
    refine ofCall_congr ?_
    rw [make_string hargs, make_string hargs, fill_numbered hlength hnone]
  · intro t args kw chosen hlength hargs hmessage ⟨i, hi, hchosen⟩ ⟨j, hj, hleft⟩
    have hmax : (renumber chosen 0 t.toList).2 ≤ maxNumber := renumber_count_le_maxNumber hlength
    obtain ⟨f, hf, hnumbered, -⟩ := exists_field_renumber hmax hi
    obtain ⟨g, hg, -, hautomatic⟩ := exists_field_renumber hmax hj
    rw [hchosen] at hnumbered
    rw [hleft] at hautomatic
    obtain ⟨front, f, back, fault, hscan, hswitches⟩ :=
      exists_switches ⟨g, hg, hautomatic⟩ ⟨f, hf, hnumbered⟩
    have htext : (numbered chosen t).toList = (renumber chosen 0 t.toList).1 :=
      String.toList_ofList
    refine ⟨front, f, back, fault, by rw [htext, hscan], hswitches, ?_⟩
    rw [ofCall_string hargs hmessage, fill, htext, fillTo, hscan, fillPieces_switches hswitches]
    cases fillPieces ⟨args, kw⟩ (fillTo ⟨args, kw⟩ 1) .undecided front <;> rfl

/-- A field in the layout of a field, and one behind it. -/
theorem ofCall_numbered_layout :
    let t := "\x7b:\x7b\x7d\x7d\x7b\x7d"
    let args : List Value := [.string "a", .string ">3", .string "b"]
    numbered everyNumber t = "\x7b0:\x7b1\x7d\x7d\x7b2\x7d" ∧
      ofCall (.string (numbered everyNumber t) :: args) [] = ofCall (.string t :: args) [] ∧
      ∃ fault, ofCall (.string (numbered (· == 0) t) :: args) [] = .error (.template fault) := by
  intro t args
  have htext : t.toList = ['{', ':', '{', '}', '}', '{', '}'] := by decide
  have hscan : scan t.toList = [.field ⟨[], none, ['{', '}']⟩, .field ⟨[], none, []⟩] := by
    rw [htext]
    rfl
  have hspec : scan ['{', '}'] = [.field ⟨[], none, []⟩] := rfl
  have htop : topNumbers 0 (scan t.toList) = [0, 2] := by
    rw [htext]
    decide +kernel
  have hempty (f : Field) : ¬ FieldIn f [] := by
    rw [FieldIn.iff, scan_nil]
    rintro ⟨g, hg, -⟩
    cases hg
  have hlayout (f : Field) (hf : FieldIn f ['{', '}']) : f = ⟨[], none, []⟩ := by
    rw [FieldIn.iff, hspec] at hf
    obtain ⟨g, hg, hf⟩ := hf
    cases List.mem_singleton.1 hg
    exact hf.resolve_right (hempty f)
  have hfields (f : Field) (hf : FieldIn f t.toList) : f.isNumbered = false := by
    rw [FieldIn.iff, hscan] at hf
    obtain ⟨g, hg, hf⟩ := hf
    simp only [List.mem_cons, Piece.field.injEq, List.not_mem_nil, or_false] at hg
    obtain rfl | rfl := hg
    · obtain rfl | hf := hf
      · rfl
      · rw [hlayout f hf]
        rfl
    · rw [hf.resolve_right (hempty f)]
      rfl
  refine ⟨by decide +kernel, ofCall_numbered.1 t args [] (by decide) (.inl (by decide)) hfields, ?_⟩
  · obtain ⟨front, f, back, fault, -, -, hcall⟩ := ofCall_numbered.2 t args [] (· == 0) (by decide)
      (.inl (by decide)) (by decide) (by rw [htop]; decide) (by rw [htop]; decide)
    exact ⟨_, hcall⟩

end ValidationError

end CredentialCheck
