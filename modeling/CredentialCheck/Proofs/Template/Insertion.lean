import CredentialCheck.Proofs.Template.Filling
import CredentialCheck.ValidationError

/-!
# Texts put into a template

A template is written down from its parts: texts, with their braces doubled, and fields that name
an argument. If the arguments are texts, what comes out are the texts of the parts one after the
other, and nothing in an argument is taken for a part of the template. The first field whose
argument is missing is the fault.

* `Part` is a part as it is meant, `Part.written` as it stands in the template, and `slots` says
  what the parts stand for once the fields without a number have been counted.
* `fillPieces_written` fills in what was written.
* `ValidationError.ofCall_written` is the statement about the calls that make an error.
-/

namespace CredentialCheck

namespace Template

/-! ## Parts -/

/-- What comes to stand at a place: a text, or an argument. -/
inductive Slot
  | text (s : String)
  | position (i : Nat)
  | keyword (name : String)
  deriving DecidableEq, Repr

/-- A part of a template. -/
inductive Part
  | slot (s : Slot)
  /-- The next positional argument. -/
  | next
  deriving DecidableEq, Repr

/-- A text as it stands in a template. -/
def doubled : List Char → List Char
  | [] => []
  | c :: s => if c = '{' ∨ c = '}' then c :: c :: doubled s else c :: doubled s

/-- A field with nothing but a name. -/
def named (name : List Char) : List Char := '{' :: name ++ ['}']

/-- A part as it stands in a template. -/
def Part.written : Part → List Char
  | .slot (.text s) => doubled s.toList
  | .slot (.position i) => named (Nat.toDigits 10 i)
  | .slot (.keyword name) => named name.toList
  | .next => named []

/-- A template written down from its parts. -/
def written (parts : List Part) : String := String.ofList (parts.flatMap Part.written)

/-- What the parts stand for, when `k` positional arguments have been taken in their order. -/
def slots (k : Nat) : List Part → List Slot
  | [] => []
  | .slot s :: parts => s :: slots k parts
  | .next :: parts => .position k :: slots (k + 1) parts

/-- The text that comes to stand at a place. -/
def Slot.insert (args : List String) (kw : List (String × String)) : Slot → Except Fault String
  | .text s => .ok s
  | .position i =>
    match args[i]? with
    | some s => .ok s
    | none => .error (.noPositional i)
  | .keyword name =>
    match kw.find? (·.1 == name) with
    | some entry => .ok entry.2
    | none => .error (.noKeyword name)

/-- A keyword that a field can name, as every identifier is: no digit comes first, and no character
means something in a field. -/
structure IsKeyword (name : String) : Prop where
  head : ∃ c ∈ name.toList.head?, Text.digitValue? c = none
  chars : ∀ c ∈ name.toList, isNameChar c = true ∧ c ≠ '.'

/-- Parts that can be written down: numbers are not too large, keywords can be named, and fields
with a number do not stand beside fields without one. -/
structure IsWritable (parts : List Part) : Prop where
  number : ∀ i, .slot (.position i) ∈ parts → i ≤ maxNumber
  keyword : ∀ name, .slot (.keyword name) ∈ parts → IsKeyword name
  oneWay : .next ∈ parts → ∀ i, .slot (.position i) ∉ parts

theorem IsWritable.tail {part : Part} {parts : List Part} (h : IsWritable (part :: parts)) :
    IsWritable parts where
  number i hi := h.number i (List.mem_cons_of_mem part hi)
  keyword name hname := h.keyword name (List.mem_cons_of_mem part hname)
  oneWay hnext i hi := h.oneWay (List.mem_cons_of_mem part hnext) i (List.mem_cons_of_mem part hi)

/-! ## Arguments -/

/-- Texts as arguments. -/
def texts (args : List String) (kw : List (String × String)) : Arguments :=
  ⟨args.map .string, kw.map fun e => (e.1, .string e.2)⟩

variable {args : List String} {kw : List (String × String)} {n : Numbering}
  {fillSpec : Numbering → List Char → Except Fault (List Char × Numbering)}

theorem atPosition_texts (i : Nat) :
    (texts args kw).atPosition i = ((Slot.position i).insert args kw).map .string := by
  simp only [Arguments.atPosition, texts, Slot.insert, List.getElem?_map]
  cases args[i]? <;> rfl

theorem resolve_texts_keyword (name : String) :
    (texts args kw).resolve n (.keyword name) =
      ((Slot.keyword name).insert args kw).map fun s => (.string s, n) := by
  simp only [Arguments.resolve, texts, Slot.insert, List.find?_map, Function.comp_def]
  cases kw.find? (·.1 == name) <;> rfl

/-! ## One part -/

section

variable {args : Arguments}

/-- A doubled text stands for itself. -/
theorem fillPieces_doubled (text s : List Char) :
    fillPieces args fillSpec n (scan (doubled text ++ s)) =
      (fillPieces args fillSpec n (scan s)).map (putBefore text) := by
  induction text with
  | nil =>
    show fillPieces args fillSpec n (scan s) = _
    cases fillPieces args fillSpec n (scan s) <;> rfl
  | cons c text ih =>
    have hfront : fillPieces args fillSpec n (scan (doubled (c :: text) ++ s)) =
        (fillPieces args fillSpec n (scan (doubled text ++ s))).map (putBefore [c]) := by
      by_cases hopen : c = '{'
      · rw [hopen]
        exact fillPieces_openBrace _
      by_cases hclose : c = '}'
      · rw [hclose]
        exact fillPieces_closeBrace _
      · rw [doubled, if_neg (not_or.2 ⟨hopen, hclose⟩), List.cons_append,
          fillPieces_plain hopen hclose]
    rw [hfront, ih]
    cases fillPieces args fillSpec n (scan s) <;> rfl

/-- A field that is a name alone. -/
theorem takeField_named {name : List Char} (h : ∀ c ∈ name, isNameChar c = true) (s : List Char) :
    takeField (name ++ '}' :: s) = .ok (⟨name, none, []⟩, s) := by
  have hname : IsName name := by simpa using isName_nil.append h
  have hwritten : Field.IsWritten ⟨name, none, []⟩ [] := ⟨hname, .none, rfl⟩
  simpa using takeField_append hwritten s

/-- Such a field stands for its argument. -/
theorem fillField_named {name : List Char} {reference : Reference}
    (hread : Reference.read name = .ok (reference, [])) :
    fillField args fillSpec n ⟨name, none, []⟩ =
      (args.resolve n reference).bind fun p =>
        (shown p.1 Value.display).map fun text => (text.toList, p.2) := by
  rw [fillField_eq_bind hread]
  cases args.resolve n reference with
  | error fault => rfl
  | ok p =>
    change ((shown p.1 Value.display).map String.toList).map _ =
      (shown p.1 Value.display).map fun text => (text.toList, p.2)
    cases shown p.1 Value.display <;> rfl

theorem fillPieces_named {name : List Char} {reference : Reference}
    (hname : ∀ c ∈ name, isNameChar c = true) (hread : Reference.read name = .ok (reference, []))
    (s : List Char) :
    fillPieces args fillSpec n (scan (named name ++ s)) =
      (args.resolve n reference).bind fun p => (shown p.1 Value.display).bind fun text =>
        (fillPieces args fillSpec p.2 (scan s)).map (putBefore text.toList) := by
  have htext : named name ++ s = '{' :: (name ++ '}' :: s) := by simp [named]
  rw [htext, scan_field (takeField_named hname s), fillPieces_field, fillField_named hread]
  cases args.resolve n reference with
  | error fault => rfl
  | ok p =>
    simp only [Except.bind]
    cases shown p.1 Value.display <;> rfl

end

/-! ## Names -/

theorem IsKeyword.read {name : String} (h : IsKeyword name) :
    Reference.read name.toList = .ok (.keyword name, []) := by
  have hstop : ∀ c ∈ name.toList, c ≠ '.' ∧ c ≠ '[' := by
    intro c hc
    obtain ⟨hchar, hdot⟩ := h.chars c hc
    refine ⟨hdot, ?_⟩
    rintro rfl
    exact absurd hchar (by decide)
  obtain ⟨c, hc, hdigit⟩ := h.head
  obtain ⟨s, hs⟩ := List.head?_eq_some_iff.1 hc
  have hnumber : wholeNumber name.toList = .ok none := by
    rw [hs, wholeNumber, readNumberFrom, hdigit]
  have hne : name.toList ≠ [] := by
    rw [hs]
    exact List.cons_ne_nil c s
  have hread := Reference.read_append hstop hne isPath_nil hnumber
  rwa [List.append_nil, Option.elim_none, String.ofList_toList] at hread

/-! ## All parts -/

/-- How the positional fields so far were named, if `k` of them had no number, and those of the
parts are named in the same way. -/
inductive Fits (parts : List Part) : (k : Nat) → Numbering → Prop
  | undecided : Fits parts 0 .undecided
  | automatic {k : Nat} (h : ∀ i, .slot (.position i) ∉ parts) : Fits parts k (.automatic k)
  | explicit {k : Nat} (h : .next ∉ parts) : Fits parts k .explicit

theorem Fits.tail {part : Part} {parts : List Part} {k : Nat} (h : Fits (part :: parts) k n) :
    Fits parts k n := by
  cases h with
  | undecided => exact .undecided
  | automatic h => exact .automatic fun i hi => h i (List.mem_cons_of_mem part hi)
  | explicit h => exact .explicit fun hnext => h (List.mem_cons_of_mem part hnext)

/-- A positional field in front of a template. -/
theorem fillPieces_positional {name : List Char} {reference : Reference} {i : Nat} {n' : Numbering}
    (hname : ∀ c ∈ name, isNameChar c = true) (hread : Reference.read name = .ok (reference, []))
    (hresolve : (texts args kw).resolve n reference =
      ((texts args kw).atPosition i).map fun v => (v, n')) (s : List Char) :
    fillPieces (texts args kw) fillSpec n (scan (named name ++ s)) =
      ((Slot.position i).insert args kw).bind fun text =>
        (fillPieces (texts args kw) fillSpec n' (scan s)).map (putBefore text.toList) := by
  rw [fillPieces_named hname hread, hresolve, atPosition_texts]
  cases (Slot.position i).insert args kw <;> rfl

/-- One part in front of a template: what comes to stand in its place, and the numbering behind
it. -/
theorem fillPieces_part {part : Part} {parts : List Part} {k : Nat}
    (hparts : IsWritable (part :: parts)) (hfits : Fits (part :: parts) k n) (s : List Char) :
    ∃ slot k' n', slots k (part :: parts) = slot :: slots k' parts ∧ Fits parts k' n' ∧
      fillPieces (texts args kw) fillSpec n (scan (part.written ++ s)) =
        (slot.insert args kw).bind fun text =>
          (fillPieces (texts args kw) fillSpec n' (scan s)).map (putBefore text.toList) := by
  cases part with
  | next =>
    have hnext : Part.next ∈ Part.next :: parts := List.mem_cons_self
    have hnumber (i : Nat) : .slot (.position i) ∉ parts := fun hi =>
      hparts.oneWay hnext i (List.mem_cons_of_mem _ hi)
    refine ⟨.position k, k + 1, .automatic (k + 1), rfl, .automatic hnumber, ?_⟩
    have hread : Reference.read [] = .ok (.next, []) := rfl
    refine fillPieces_positional (by simp) hread ?_ s
    cases hfits with
    | undecided => rfl
    | automatic => rfl
    | explicit h => exact absurd hnext h
  | slot slot =>
    cases slot with
    | text t => exact ⟨.text t, k, n, rfl, hfits.tail, fillPieces_doubled t.toList s⟩
    | position i =>
      have hi : Part.slot (.position i) ∈ Part.slot (.position i) :: parts := List.mem_cons_self
      have hnext : Part.next ∉ parts := fun h =>
        hparts.oneWay (List.mem_cons_of_mem _ h) i hi
      have hread : Reference.read (Nat.toDigits 10 i) = .ok (.position i, []) := by
        simpa using Reference.read_toDigits (hparts.number i hi) isPath_nil
      refine ⟨.position i, k, .explicit, rfl, .explicit hnext, ?_⟩
      refine fillPieces_positional (fun c hc => isNameChar_of_mem_toDigits hc) hread ?_ s
      cases hfits with
      | undecided => rfl
      | automatic h => exact absurd hi (h i)
      | explicit => rfl
    | keyword name =>
      have hname := hparts.keyword name List.mem_cons_self
      refine ⟨.keyword name, k, n, rfl, hfits.tail, ?_⟩
      show fillPieces _ fillSpec n (scan (named name.toList ++ s)) = _
      rw [fillPieces_named (fun c hc => (hname.chars c hc).1) hname.read, resolve_texts_keyword]
      cases (Slot.keyword name).insert args kw <;> rfl

theorem fillPieces_written {parts : List Part} {k : Nat} (hparts : IsWritable parts)
    (hfits : Fits parts k n) :
    (fillPieces (texts args kw) fillSpec n (scan (parts.flatMap Part.written))).map Prod.fst =
      ((slots k parts).mapM (Slot.insert args kw)).map fun ts => (String.join ts).toList := by
  induction parts generalizing k n with
  | nil => rfl
  | cons part parts ih =>
    obtain ⟨slot, k', n', hslots, hfits', hfill⟩ :=
      fillPieces_part hparts hfits (parts.flatMap Part.written)
    rw [List.flatMap_cons, hfill, hslots, List.mapM_cons]
    cases slot.insert args kw with
    | error fault => rfl
    | ok text =>
      have hrest := ih hparts.tail hfits'
      simp only [bind, Except.bind]
      cases hts : (slots k' parts).mapM (Slot.insert args kw) with
      | error fault =>
        rw [hts] at hrest
        cases hfilled : fillPieces (texts args kw) fillSpec n'
            (scan (parts.flatMap Part.written)) with
        | error fault' =>
          rw [hfilled] at hrest
          exact hrest
        | ok p =>
          rw [hfilled] at hrest
          cases hrest
      | ok ts =>
        rw [hts] at hrest
        obtain ⟨p, hfilled, hp⟩ := exists_of_map_eq_ok hrest
        rw [hfilled]
        show Except.ok (text.toList ++ p.1) = Except.ok (String.join (text :: ts)).toList
        rw [hp, String.join_cons, String.toList_append]

/-! ## All the places -/

theorem mapM_insert_eq_ok {slots : List Slot} {ts : List String}
    (h : List.Forall₂ (fun slot t => slot.insert args kw = .ok t) slots ts) :
    slots.mapM (Slot.insert args kw) = .ok ts := by
  induction h with
  | nil => rfl
  | cons hinsert _ ih =>
    rw [List.mapM_cons, hinsert, ih]
    rfl

theorem mapM_insert_eq_error {front back : List Slot} {slot : Slot} {fault : Fault}
    (hfront : ∀ s ∈ front, ∃ t, s.insert args kw = .ok t)
    (h : slot.insert args kw = .error fault) :
    (front ++ slot :: back).mapM (Slot.insert args kw) = .error fault := by
  induction front with
  | nil =>
    rw [List.nil_append, List.mapM_cons, h]
    rfl
  | cons s front ih =>
    obtain ⟨t, ht⟩ := hfront s List.mem_cons_self
    have hrest := ih fun s' hs' => hfront s' (List.mem_cons_of_mem s hs')
    rw [List.cons_append, List.mapM_cons, ht, hrest]
    rfl

/-- A template that was written down, filled in with texts. -/
theorem fill_written {parts : List Part} (hparts : IsWritable parts) :
    fill (texts args kw) (written parts) =
      ((slots 0 parts).mapM (Slot.insert args kw)).map String.join := by
  have hfill : (fillTo (texts args kw) 2 .undecided (parts.flatMap Part.written)).map Prod.fst =
      ((slots 0 parts).mapM (Slot.insert args kw)).map fun ts => (String.join ts).toList :=
    fillPieces_written hparts .undecided
  have hfst : fill (texts args kw) (written parts) =
      ((fillTo (texts args kw) 2 .undecided (parts.flatMap Part.written)).map Prod.fst).map
        String.ofList := by
    rw [fill, written, String.toList_ofList]
    cases fillTo (texts args kw) 2 .undecided (parts.flatMap Part.written) <;> rfl
  rw [hfst, hfill]
  cases (slots 0 parts).mapM (Slot.insert args kw) with
  | error fault => rfl
  | ok ts => exact congrArg Except.ok String.ofList_toList

end Template

namespace ValidationError

open Template

/-- The call that makes an error from a template and texts. -/
def ofTexts (template : String) (args : List String) (kw : List (String × String)) :
    Except CallFault ValidationError :=
  ofCall (.string template :: args.map .string) (kw.map fun e => (e.1, .string e.2))

variable {args : List String} {kw : List (String × String)} {parts : List Part}

theorem ofTexts_eq_map (hparts : IsWritable parts) (hargs : args ≠ [] ∨ kw ≠ [])
    (hmessage : ∀ e ∈ kw, e.1 ≠ "message") :
    ofTexts (written parts) args kw =
      (((slots 0 parts).mapM (Slot.insert args kw)).map fun ts =>
        ⟨.string (String.join ts)⟩).mapError .template := by
  have hsome : args.map Value.string ≠ [] ∨ (kw.map fun e => (e.1, Value.string e.2)) ≠ [] :=
    hargs.imp (fun h => mt List.map_eq_nil_iff.1 h) fun h => mt List.map_eq_nil_iff.1 h
  have hnames : ∀ e ∈ kw.map fun e => (e.1, Value.string e.2), e.1 ≠ "message" := by
    intro e he
    obtain ⟨entry, hentry, rfl⟩ := List.mem_map.1 he
    exact hmessage entry hentry
  have hfill : fill (texts args kw) (written parts) = _ := fill_written hparts
  rw [texts] at hfill
  rw [ofTexts, ofCall_string hsome hnames, hfill]
  cases (slots 0 parts).mapM (Slot.insert args kw) <;> rfl

/-- **Texts put into a template.** If every field finds its argument, the message is the texts of
the parts one after the other; otherwise the fault is that of the first field that does not. Without
arguments the template is the message. -/
theorem ofTexts_written :
    (∀ (parts : List Part) (args : List String) (kw : List (String × String)),
      IsWritable parts → (args ≠ [] ∨ kw ≠ []) → (∀ e ∈ kw, e.1 ≠ "message") →
        (∀ ts, List.Forall₂ (fun slot t => slot.insert args kw = .ok t) (slots 0 parts) ts →
          ofTexts (written parts) args kw = .ok ⟨.string (String.join ts)⟩) ∧
        ∀ front slot back fault, slots 0 parts = front ++ slot :: back →
          (∀ s ∈ front, ∃ t, s.insert args kw = .ok t) → slot.insert args kw = .error fault →
            ofTexts (written parts) args kw = .error (.template fault)) ∧
    (∀ i, (CallFault.template (.noPositional i)).message =
      "Replacement index " ++ toString i ++ " out of range for positional args tuple") ∧
    ∀ t, ofTexts t [] [] = .ok ⟨.string t⟩ := by
  refine ⟨fun parts args kw hparts hargs hmessage => ?_, fun i => rfl, fun t => rfl⟩
  rw [ofTexts_eq_map hparts hargs hmessage]
  constructor
  · intro ts hinsert
    rw [mapM_insert_eq_ok hinsert]
    rfl
  · intro front slot back fault hslots hfront hfault
    rw [hslots, mapM_insert_eq_error hfront hfault]
    rfl

/-- A field between two braces, with and without its argument, which has braces of its own. -/
theorem ofTexts_written_braces :
    let parts : List Part :=
      [.slot (.text "\x7b"), .slot (.keyword "name"), .slot (.text "\x7d:"), .next]
    let kw := [("name", "\x7b0!r\x7d")]
    IsWritable parts ∧ written parts = "\x7b\x7b\x7bname\x7d\x7d\x7d:\x7b\x7d" ∧
      ofTexts (written parts) ["\x7b\x7d"] kw = .ok ⟨.string "\x7b\x7b0!r\x7d\x7d:\x7b\x7d"⟩ ∧
      ofTexts (written parts) [] kw = .error (.template (.noPositional 0)) ∧
      ofTexts "\x7b" [] [] = .ok ⟨.string "\x7b"⟩ := by
  intro parts kw
  have hparts : IsWritable parts := {
    number := by simp [parts]
    keyword := by
      intro name hname
      have hname : name = "name" := by simpa [parts] using hname
      rw [hname]
      exact ⟨⟨'n', rfl, by decide⟩, by simp [isNameChar]⟩
    oneWay := by simp [parts] }
  obtain ⟨hwritten, -, hplain⟩ := ofTexts_written
  refine ⟨hparts, rfl, ?_, ?_, hplain _⟩
  · refine (hwritten parts ["\x7b\x7d"] kw hparts (.inl (by decide)) (by decide)).1
      ["\x7b", "\x7b0!r\x7d", "\x7d:", "\x7b\x7d"] ?_
    exact .cons rfl (.cons rfl (.cons rfl (.cons rfl .nil)))
  · refine (hwritten parts [] kw hparts (.inr (by decide)) (by decide)).2
      [.text "\x7b", .keyword "name", .text "\x7d:"] (.position 0) [] _ rfl ?_ rfl
    simp only [List.forall_mem_cons]
    exact ⟨⟨_, rfl⟩, ⟨_, rfl⟩, ⟨_, rfl⟩, by simp⟩

end ValidationError

end CredentialCheck
