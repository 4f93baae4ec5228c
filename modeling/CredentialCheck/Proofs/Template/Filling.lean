import CredentialCheck.Proofs.Template.Scanning
import CredentialCheck.ValidationError

/-!
# Filling in piece by piece

What the text of a template comes to, character by character: a character that is no brace stands
in front of what the rest comes to, and so does a doubled brace. Beside this, the names that are
numbers, and the fields that are a name alone.

* `fillPieces_append` and `fillPieces_plain` are the equations.
* `Reference.read_toDigits` reads the number in front of a path.
-/

namespace CredentialCheck

namespace Template

variable {args : Arguments} {n : Numbering}
  {fillSpec : Numbering → List Char → Except Fault (List Char × Numbering)}

/-! ## Pieces -/

/-- A text in front of what has been filled in. -/
def putBefore (text : List Char) (p : List Char × Numbering) : List Char × Numbering :=
  (text ++ p.1, p.2)

theorem putBefore_append (s t : List Char) (p : List Char × Numbering) :
    putBefore (s ++ t) p = putBefore s (putBefore t p) :=
  Prod.ext (List.append_assoc s t p.1) rfl

theorem fillPieces_literal (text : List Char) (pieces : List Piece) :
    fillPieces args fillSpec n (.literal text :: pieces) =
      (fillPieces args fillSpec n pieces).map (putBefore text) := by
  rw [fillPieces]
  cases fillPieces args fillSpec n pieces <;> rfl

theorem fillPieces_field (f : Field) (pieces : List Piece) :
    fillPieces args fillSpec n (.field f :: pieces) =
      (fillField args fillSpec n f).bind fun p =>
        (fillPieces args fillSpec p.2 pieces).map (putBefore p.1) := by
  rw [fillPieces]
  cases fillField args fillSpec n f with
  | error fault => rfl
  | ok p =>
    simp only [bind, Except.bind]
    cases fillPieces args fillSpec p.2 pieces <;> rfl

/-- Two runs of pieces one after the other. -/
theorem fillPieces_append (front back : List Piece) :
    fillPieces args fillSpec n (front ++ back) =
      (fillPieces args fillSpec n front).bind fun p =>
        (fillPieces args fillSpec p.2 back).map (putBefore p.1) := by
  induction front generalizing n with
  | nil =>
    show fillPieces args fillSpec n back = (fillPieces args fillSpec n back).map (putBefore [])
    cases fillPieces args fillSpec n back <;> rfl
  | cons piece front ih =>
    cases piece with
    | literal text =>
      rw [List.cons_append, fillPieces_literal, fillPieces_literal, ih]
      cases fillPieces args fillSpec n front with
      | error fault => rfl
      | ok p =>
        show ((fillPieces args fillSpec p.2 back).map (putBefore p.1)).map (putBefore text) =
          (fillPieces args fillSpec p.2 back).map (putBefore (text ++ p.1))
        cases fillPieces args fillSpec p.2 back with
        | error fault => rfl
        | ok q => exact congrArg Except.ok (putBefore_append text p.1 q).symm
    | field f =>
      rw [List.cons_append, fillPieces_field, fillPieces_field]
      cases fillField args fillSpec n f with
      | error fault => rfl
      | ok p =>
        simp only [Except.bind, ih]
        cases fillPieces args fillSpec p.2 front with
        | error fault => rfl
        | ok q =>
          show ((fillPieces args fillSpec q.2 back).map (putBefore q.1)).map (putBefore p.1) =
            (fillPieces args fillSpec q.2 back).map (putBefore (p.1 ++ q.1))
          cases fillPieces args fillSpec q.2 back with
          | error fault => rfl
          | ok r => exact congrArg Except.ok (putBefore_append p.1 q.1 r).symm
    | broken fault => rfl

/-- A character that is no brace, whether the literal that it begins goes on or not. -/
theorem fillPieces_plain {c : Char} (hopen : c ≠ '{') (hclose : c ≠ '}') (s : List Char) :
    fillPieces args fillSpec n (scan (c :: s)) =
      (fillPieces args fillSpec n (scan s)).map (putBefore [c]) := by
  obtain hscan | ⟨text, pieces, hscan, hscan'⟩ := scan_plain_cases hopen hclose s
  · rw [hscan, fillPieces_literal]
  · rw [hscan, hscan', fillPieces_literal, fillPieces_literal]
    cases fillPieces args fillSpec n pieces <;> rfl

theorem fillPieces_openBrace (s : List Char) :
    fillPieces args fillSpec n (scan ('{' :: '{' :: s)) =
      (fillPieces args fillSpec n (scan s)).map (putBefore ['{']) := by
  rw [scan_openBrace, fillPieces_literal]

theorem fillPieces_closeBrace (s : List Char) :
    fillPieces args fillSpec n (scan ('}' :: '}' :: s)) =
      (fillPieces args fillSpec n (scan s)).map (putBefore ['}']) := by
  rw [scan_closeBrace, fillPieces_literal]

/-! ## Fields -/

/-- The layout of a field, filled in if it has fields. -/
def fillLayout (fillSpec : Numbering → List Char → Except Fault (List Char × Numbering))
    (n : Numbering) (spec : List Char) : Except Fault (List Char × Numbering) :=
  if spec.contains '{' then fillSpec n spec else .ok (spec, n)

/-- What a field shows of its argument in a layout. -/
def present (conversion : Option Char) (path : List Char) (v : Value)
    (layout : Except Fault (List Char × Numbering)) : Except Fault (List Char × Numbering) :=
  ((follow v path).bind (·.convert conversion)).bind fun x =>
    layout.bind fun p => (x.format p.1).map fun text => (text, p.2)

theorem fillField_of_read_eq_error {f : Field} {fault : Fault}
    (h : Reference.read f.name = .error fault) : fillField args fillSpec n f = .error fault := by
  rw [fillField, h]
  rfl

/-- The argument comes first, then the conversion, then the layout. -/
theorem fillField_eq_bind {f : Field} {reference : Reference} {path : List Char}
    (hread : Reference.read f.name = .ok (reference, path)) :
    fillField args fillSpec n f =
      (args.resolve n reference).bind fun p =>
        present f.conversion path p.1 (fillLayout fillSpec p.2 f.spec) := by
  rw [fillField, hread]
  simp only [bind, Except.bind, pure, Except.pure, fillLayout, present]
  cases args.resolve n reference with
  | error fault => rfl
  | ok p =>
    dsimp only
    cases follow p.1 path with
    | error fault => rfl
    | ok x =>
      dsimp only
      cases x.convert f.conversion with
      | error fault => rfl
      | ok x =>
        dsimp only
        split
        · cases fillSpec p.2 f.spec with
          | error fault => rfl
          | ok q =>
            dsimp only
            cases x.format q.1 <;> rfl
        · dsimp only
          cases x.format f.spec <;> rfl

/-! ## Numbers -/

/-- A number can be read on behind the digits that have been read. -/
theorem readNumberFrom_append {soFar : Option Nat} {m : Nat} {s : List Char} (t : List Char)
    (h : readNumberFrom soFar s = .ok (some m, [])) :
    readNumberFrom soFar (s ++ t) = readNumberFrom (some m) t := by
  induction s generalizing soFar with
  | nil =>
    cases h
    rfl
  | cons c s ih =>
    rw [readNumberFrom] at h
    rw [List.cons_append, readNumberFrom]
    cases hdigit : Text.digitValue? c with
    | none =>
      rw [hdigit] at h
      cases h
    | some d =>
      rw [hdigit] at h
      dsimp only at h ⊢
      split at h
      · cases h
      · next hle =>
        rw [if_neg hle]
        exact ih h

theorem readNumberFrom_toDigits {i : Nat} (h : i ≤ maxNumber) :
    readNumberFrom none (Nat.toDigits 10 i) = .ok (some i, []) := by
  have hdigit : ∀ d < 10, Text.digitValue? d.digitChar = some d := by decide
  induction i using Nat.strongRecOn with
  | _ i ih =>
    by_cases hlt : i < 10
    · rw [Nat.toDigits_of_lt_base hlt, readNumberFrom, hdigit i hlt]
      simp only [Option.getD_none, Nat.zero_mul, Nat.zero_add]
      rw [if_neg (by omega)]
      rfl
    · have htens := ih (i / 10) (by omega) (by omega)
      have hvalue : i / 10 * 10 + i % 10 = i := by omega
      rw [Nat.toDigits_of_base_le (by decide) (by omega), readNumberFrom_append _ htens,
        readNumberFrom, hdigit (i % 10) (by omega)]
      simp only [Option.getD_some, hvalue]
      rw [if_neg (by omega)]
      rfl

theorem wholeNumber_toDigits {i : Nat} (h : i ≤ maxNumber) :
    wholeNumber (Nat.toDigits 10 i) = .ok (some i) := by
  rw [wholeNumber, readNumberFrom_toDigits h]

/-! ## Names -/

theorem isNameChar_of_mem_toDigits {i : Nat} {c : Char} (hc : c ∈ Nat.toDigits 10 i) :
    isNameChar c = true := by
  have hdigit := Nat.isDigit_of_mem_toDigits (by decide) (by decide) hc
  refine decide_eq_true fun hmark => ?_
  simp only [List.mem_cons, List.not_mem_nil, or_false] at hmark
  obtain rfl | rfl | rfl | rfl | rfl := hmark <;> cases hdigit

/-- What stands behind the name of an argument: nothing, or a step. -/
def IsPath (path : List Char) : Prop := ∀ c ∈ path.head?, c = '.' ∨ c = '['

theorem isPath_nil : IsPath [] := by
  intro c hc
  cases hc

/-- The name of a field is cut where the path begins. -/
theorem span_append_path {first path : List Char} (hfirst : ∀ c ∈ first, c ≠ '.' ∧ c ≠ '[')
    (hpath : IsPath path) :
    (first ++ path).span (fun c => c ≠ '.' ∧ c ≠ '[') = (first, path) := by
  have hall : ∀ c ∈ first, decide (c ≠ '.' ∧ c ≠ '[') = true := fun c hc =>
    decide_eq_true (hfirst c hc)
  have hstop : path.takeWhile (fun c => decide (c ≠ '.' ∧ c ≠ '[')) = [] ∧
      path.dropWhile (fun c => decide (c ≠ '.' ∧ c ≠ '[')) = path := by
    cases path with
    | nil => exact ⟨rfl, rfl⟩
    | cons c path =>
      have hc : ¬ (c ≠ '.' ∧ c ≠ '[') := by
        rintro ⟨hdot, hbracket⟩
        exact (hpath c rfl).elim hdot hbracket
      simp [hc]
  rw [List.span_eq_takeWhile_dropWhile, List.takeWhile_append_of_pos hall,
    List.dropWhile_append_of_pos hall, hstop.1, hstop.2, List.append_nil]

theorem Reference.read_append {first path : List Char} (hfirst : ∀ c ∈ first, c ≠ '.' ∧ c ≠ '[')
    (hne : first ≠ []) (hpath : IsPath path) {number : Option Nat}
    (hnumber : wholeNumber first = .ok number) :
    Reference.read (first ++ path) =
      .ok (number.elim (.keyword (String.ofList first)) .position, path) := by
  have hempty : first.isEmpty = false := by
    cases first with
    | nil => exact absurd rfl hne
    | cons => rfl
  rw [Reference.read, span_append_path hfirst hpath]
  simp only [hempty, Bool.false_eq_true, if_false, hnumber]
  cases number <;> rfl

/-- A number in front of a path. -/
theorem Reference.read_toDigits {i : Nat} {path : List Char} (h : i ≤ maxNumber)
    (hpath : IsPath path) :
    Reference.read (Nat.toDigits 10 i ++ path) = .ok (.position i, path) := by
  have hdigit (c : Char) (hc : c ∈ Nat.toDigits 10 i) : c ≠ '.' ∧ c ≠ '[' := by
    have hisDigit := Nat.isDigit_of_mem_toDigits (by decide) (by decide) hc
    constructor <;> rintro rfl <;> exact absurd hisDigit (by decide)
  exact Reference.read_append hdigit Nat.toDigits_ne_nil hpath (wholeNumber_toDigits h)

end Template

/-! ## Errors -/

namespace ValidationError

open Template

variable {positional : List Value} {keyword : List (String × Value)}

theorem make_string (h : positional ≠ [] ∨ keyword ≠ []) (template : String) :
    make (.string template) ⟨positional, keyword⟩ =
      (fill ⟨positional, keyword⟩ template).map fun text => ⟨.string text⟩ := by
  have hargs : ¬ (positional.isEmpty = true ∧ keyword.isEmpty = true) := by
    simpa only [List.isEmpty_iff, not_and_or] using h
  simp only [make, if_neg hargs]

/-- An error from a template and arguments that are not both missing. -/
theorem ofCall_string (h : positional ≠ [] ∨ keyword ≠ [])
    (hmessage : ∀ e ∈ keyword, e.1 ≠ "message") (template : String) :
    ofCall (.string template :: positional) keyword =
      ((fill ⟨positional, keyword⟩ template).map fun text => ⟨.string text⟩).mapError
        .template := by
  have hnamed : keyword.find? (·.1 == "message") = none :=
    List.find?_eq_none.2 fun e he => by simpa using hmessage e he
  simp only [ofCall, hnamed, Option.map_none, make_string h]

end ValidationError

end CredentialCheck
