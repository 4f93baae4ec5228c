import CredentialCheck.Proofs.Json.Grammar
import CredentialCheck.Proofs.Value.TextKeys
import CredentialCheck.Text.Hex

/-!
# Writing JSON texts

A writer of JSON texts in the usual way, and the proof that what it writes is in the grammar. The
writer leaves the layout open: the white space around commas and colons, the indentation, and
whether characters beyond ASCII are written by their numbers (`Style`).

* `write?` writes a value. A tuple is written as a list, and a key that is a number, a truth value
  or null as the text of it; other collections, bytes and doubles are not written.
* `Fits` says which values come back from reading what has been written: the keys are texts, and the
  limits of the reader on digits and on nesting are kept.
* `exists_write?_of_fits`: such a value is written, and the text spells the value.
-/

namespace CredentialCheck.Json

open Text Grammar

/-! ## The writer -/

/-- White space as such. -/
abbrev Space := { s : List Char // Blank s }

/-- How a text is laid out. -/
structure Style where
  /-- Whether characters beyond ASCII are written by their numbers. -/
  ascii : Bool
  beforeComma : Space
  afterComma : Space
  beforeColon : Space
  afterColon : Space
  /-- The white space for one level, if every part of a list or an object has a line to itself. -/
  indent : Option Space

/-- What goes between the parts on a level: a new line and its indentation, or nothing. -/
def Style.line (l : Style) (level : Nat) : List Char :=
  match l.indent with
  | none => []
  | some s => '\n' :: (List.replicate level s.1).flatten

/-- The escape of a number below 0x10000. -/
def numberEscape (n : Nat) : List Char := '\\' :: 'u' :: fixedHex 4 n

/-- The escape of any code point: two numbers, a surrogate pair, if it is beyond U+FFFF. -/
def byNumber (n : Nat) : List Char :=
  if n < 0x10000 then numberEscape n
  else
    numberEscape (0xD800 + (n - 0x10000) / 0x400) ++ numberEscape (0xDC00 + (n - 0x10000) % 0x400)

/-- A character between quotation marks. In ASCII everything beyond the tilde has an escape. -/
def escape (ascii : Bool) (c : Char) : List Char :=
  match c with
  | '"' => "\\\"".toList
  | '\\' => "\\\\".toList
  | '\x08' => "\\b".toList
  | '\x0C' => "\\f".toList
  | '\n' => "\\n".toList
  | '\r' => "\\r".toList
  | '\t' => "\\t".toList
  | c => if c.toNat < 0x20 ∨ ascii = true ∧ 0x7E < c.toNat then byNumber c.toNat else [c]

/-- A text between its quotation marks. -/
def quote (ascii : Bool) (s : List Char) : List Char := '"' :: s.flatMap (escape ascii) ++ ['"']

/-- An integer in decimal digits. -/
def integerText (n : Int) : List Char :=
  if n < 0 then '-' :: Nat.toDigits 10 n.natAbs else Nat.toDigits 10 n.natAbs

/-- A truth value as a word. -/
def truthText (b : Bool) : List Char := if b then "true".toList else "false".toList

/-- A key as a text. -/
def keyText? : Value → Option (List Char)
  | .string s => some s.toList
  | .null => some "null".toList
  | .bool b => some (truthText b)
  | .integer n => some (integerText n)
  | _ => none

/-- The parts of a list or an object between its brackets. -/
def enclosed (l : Style) (level : Nat) (opening closing : Char) (parts : List Char) : List Char :=
  opening :: (l.line (level + 1) ++ parts ++ l.line level) ++ [closing]

/-- Two parts of a list or an object on the same level. -/
def separated (l : Style) (level : Nat) (s t : List Char) : List Char :=
  s ++ l.beforeComma.1 ++ ',' :: (l.afterComma.1 ++ l.line level ++ t)

mutual

/-- A value that stands inside `level` lists and objects. -/
def write? (l : Style) (level : Nat) : Value → Option (List Char)
  | .null => some "null".toList
  | .bool b => some (truthText b)
  | .integer n => some (integerText n)
  | .string s => some (quote l.ascii s.toList)
  | .list items =>
    if items.isEmpty then some "[]".toList
    else (writeItems? l (level + 1) items).map (enclosed l level '[' ']')
  | .tuple items =>
    if items.isEmpty then some "[]".toList
    else (writeItems? l (level + 1) items).map (enclosed l level '[' ']')
  | .dict entries =>
    if entries.isEmpty then some "\x7b\x7d".toList
    else (writeEntries? l (level + 1) entries).map (enclosed l level '\x7b' '\x7d')
  | _ => none

/-- The elements of a list with the commas between them. -/
def writeItems? (l : Style) (level : Nat) : List Value → Option (List Char)
  | [] => some []
  | v :: vs =>
    (write? l level v).bind fun s =>
      if vs.isEmpty then some s
      else (writeItems? l level vs).map (separated l level s)

/-- The entries of an object with the commas between them. -/
def writeEntries? (l : Style) (level : Nat) : List (Value × Value) → Option (List Char)
  | [] => some []
  | (k, v) :: es =>
    (keyText? k).bind fun key =>
      (write? l level v).bind fun s =>
        let entry := quote l.ascii key ++ l.beforeColon.1 ++ ':' :: l.afterColon.1 ++ s
        if es.isEmpty then some entry else (writeEntries? l level es).map (separated l level entry)

end

/-! ## What comes back -/

/-- The values that come back from reading what has been written, where `depth` levels of nesting
and `digits` digits are allowed: each part stands inside fewer than `depth` lists and dictionaries,
and the keys are texts. -/
inductive Fits (digits : Nat) : (depth : Nat) → Value → Prop
  | null {depth : Nat} : Fits digits (depth + 1) .null
  | bool {depth : Nat} (b : Bool) : Fits digits (depth + 1) (.bool b)
  | integer {depth : Nat} {n : Int} (h : (Nat.toDigits 10 n.natAbs).length ≤ digits) :
    Fits digits (depth + 1) (.integer n)
  | string {depth : Nat} (s : String) : Fits digits (depth + 1) (.string s)
  | list {depth : Nat} {items : List Value} (h : ∀ v ∈ items, Fits digits depth v) :
    Fits digits (depth + 1) (.list items)
  | dict {depth : Nat} {entries : List (String × Value)} (hkeys : (entries.map Prod.fst).Nodup)
    (h : ∀ e ∈ entries, Fits digits depth e.2) :
    Fits digits (depth + 1) (.dict (textEntries entries))

/-! ## Strings -/

/-- Four digits are enough for a number below 0x10000. -/
theorem hex4_fixedHex {n : Nat} (h : n < 0x10000) : Hex4 (fixedHex 4 n) n := by
  have hdigits := Hex4.mk (hexValue?_hexDigit (n / 16 / 16 / 16 % 16) (Nat.mod_lt _ (by omega)))
    (hexValue?_hexDigit (n / 16 / 16 % 16) (Nat.mod_lt _ (by omega)))
    (hexValue?_hexDigit (n / 16 % 16) (Nat.mod_lt _ (by omega)))
    (hexValue?_hexDigit (n % 16) (Nat.mod_lt _ (by omega)))
  have hvalue : ((n / 16 / 16 / 16 % 16 * 16 + n / 16 / 16 % 16) * 16 + n / 16 % 16) * 16 + n % 16 =
      n := by omega
  rwa [hvalue] at hdigits

theorem charText_byNumber (c : Char) : CharText (byNumber c.toNat) c := by
  have hc : Char.ofNat c.toNat = c := Char.ofNat_toNat c
  have hvalid : c.toNat < 0xD800 ∨ 0xDFFF < c.toNat ∧ c.toNat < 0x110000 := c.valid
  unfold byNumber
  generalize c.toNat = n at hc hvalid
  split
  · next h =>
    have hnumber := CharText.numbered (hex4_fixedHex h)
      (by simp only [isHighSurrogate, Bool.and_eq_false_iff, decide_eq_false_iff_not]; omega)
      (by simp only [isLowSurrogate, Bool.and_eq_false_iff, decide_eq_false_iff_not]; omega)
    rwa [hc] at hnumber
  · next h =>
    have hpair := CharText.pair (hex4_fixedHex (n := 0xD800 + (n - 0x10000) / 0x400) (by omega))
      (hex4_fixedHex (n := 0xDC00 + (n - 0x10000) % 0x400) (by omega))
      (by simp only [isHighSurrogate, Bool.and_eq_true, decide_eq_true_eq]; omega)
      (by simp only [isLowSurrogate, Bool.and_eq_true, decide_eq_true_eq]; omega)
    have hvalue :
        pairValue (0xD800 + (n - 0x10000) / 0x400) (0xDC00 + (n - 0x10000) % 0x400) = n := by
      unfold pairValue
      omega
    rwa [hvalue, hc] at hpair

/-- Every character is written so that it can be read. -/
theorem charText_escape (ascii : Bool) (c : Char) : CharText (escape ascii c) c := by
  unfold escape
  split
  case h_8 hquote hbackslash _ _ _ _ _ =>
    split
    · exact charText_byNumber c
    · next h => exact .plain (by omega) hquote hbackslash
  all_goals exact .short rfl

theorem stringText_flatMap (ascii : Bool) (s : List Char) :
    StringText (s.flatMap (escape ascii)) s := by
  induction s with
  | nil => exact .nil
  | cons c s ih =>
    rw [List.flatMap_cons]
    exact .cons (charText_escape ascii c) ih

/-! ## Integers -/

/-- Only zero begins with a zero. -/
theorem head?_toDigits_ne {n : Nat} (h : n ≠ 0) : (Nat.toDigits 10 n).head? ≠ some '0' := by
  induction n using Nat.strongRecOn with
  | _ n ih =>
    by_cases hlt : n < 10
    · rw [Nat.toDigits_of_lt_base hlt]
      have hdigit : ∀ m < 10, m ≠ 0 → [m.digitChar].head? ≠ some '0' := by decide
      exact hdigit n hlt h
    · rw [Nat.toDigits_of_base_le (by decide) (by omega)]
      have htens := ih (n / 10) (by omega) (by omega)
      cases hd : Nat.toDigits 10 (n / 10) with
      | nil => exact absurd hd Nat.toDigits_ne_nil
      | cons c cs =>
        rw [hd] at htens
        exact htens

theorem whole_toDigits (n : Nat) : Whole (Nat.toDigits 10 n) := by
  refine ⟨⟨Nat.toDigits_ne_nil, fun c hc => Nat.isDigit_of_mem_toDigits (by decide) (by decide) hc⟩,
    fun hzero => ?_⟩
  by_cases h : n = 0
  · rw [h, Nat.toDigits_zero]
  · exact absurd hzero (head?_toDigits_ne h)

theorem numberOfDigits_toDigits (n : Nat) : numberOfDigits (Nat.toDigits 10 n) = n := by
  have hread := Nat.ofDigitChars_ten_toDigits (n := n)
  rw [Nat.ofDigitChars_eq_foldl] at hread
  simp only [numberOfDigits, Nat.mul_comm _ 10]
  exact hread

/-- The digits of an integer, with its sign in front. -/
theorem numberOfParts_toDigits (negative : Bool) (n : Nat) :
    numberOfParts negative (Nat.toDigits 10 n) none none =
      .integer (if negative then -n else n) := by
  simp only [numberOfParts, Option.isNone_none, and_self, if_true, numberOfDigits_toDigits]

theorem numberText_integerText {n : Int} {digits : Nat}
    (h : (Nat.toDigits 10 n.natAbs).length ≤ digits) :
    NumberText digits (integerText n) (.integer n) := by
  have hwhole := whole_toDigits n.natAbs
  unfold integerText
  split
  · next hneg =>
    have hnumber := NumberText.signed hwhole h .absent .absent
    have hvalue : -((n.natAbs : Nat) : Int) = n := by omega
    rwa [numberOfParts_toDigits, if_pos rfl, hvalue, List.append_nil, List.append_nil] at hnumber
  · next hneg =>
    have hnumber := NumberText.unsigned hwhole h .absent .absent
    have hvalue : ((n.natAbs : Nat) : Int) = n := by omega
    rwa [numberOfParts_toDigits, if_neg Bool.false_ne_true, hvalue, List.append_nil,
      List.append_nil] at hnumber

/-! ## White space -/

theorem blank_nil : Blank [] := by
  intro c hc
  cases hc

theorem blank_append {a b : List Char} (ha : Blank a) (hb : Blank b) : Blank (a ++ b) := by
  intro c hc
  rcases List.mem_append.1 hc with hc | hc
  · exact ha c hc
  · exact hb c hc

theorem blank_line (l : Style) (level : Nat) : Blank (l.line level) := by
  unfold Style.line
  split
  · exact blank_nil
  · next s _ =>
    intro c hc
    rcases List.mem_cons.1 hc with rfl | hc
    · decide
    · obtain ⟨t, ht, hc⟩ := List.mem_flatten.1 hc
      rw [List.eq_of_mem_replicate ht] at hc
      exact s.2 c hc

/-- The usual style: a blank behind commas and colons, no new lines, and ASCII only. -/
def Style.usual : Style :=
  ⟨true, ⟨[], blank_nil⟩, ⟨[' '], by simp [Blank]⟩, ⟨[], blank_nil⟩, ⟨[' '], by simp [Blank]⟩, none⟩

/-! ## Lists and objects -/

section

variable {element : List Char → Value → Prop} {l : Style} {level : Nat}

/-- Between any white space, the elements written one after the other are the elements of a list. -/
theorem exists_writeItems? {items : List Value} (hne : items ≠ [])
    (h : ∀ v ∈ items, ∃ s, write? l level v = some s ∧ element s v) :
    ∃ t, writeItems? l level items = some t ∧
      ∀ {a b}, Blank a → Blank b → ElementsText element (a ++ t ++ b) items := by
  induction items with
  | nil => exact absurd rfl hne
  | cons v vs ih =>
    obtain ⟨s, hs, hv⟩ := h v List.mem_cons_self
    cases vs with
    | nil =>
      refine ⟨s, ?_, fun ha hb => .last ha hv hb⟩
      simp only [writeItems?, hs, Option.bind_some, List.isEmpty_nil, if_true]
    | cons w vs =>
      obtain ⟨t, ht, hitems⟩ := ih (by simp) fun u hu => h u (List.mem_cons_of_mem v hu)
      refine ⟨separated l level s t, ?_, fun {a b} ha hb => ?_⟩
      · rw [writeItems?, hs, Option.bind_some, if_neg (by simp), ht, Option.map_some]
      · have hmore := ElementsText.more ha hv l.beforeComma.2
          (hitems (blank_append l.afterComma.2 (blank_line l level)) hb)
        simpa only [separated, List.append_assoc, List.cons_append] using hmore

theorem entryText_quote (ascii : Bool) (key : String) {a b : Space} {s : List Char} {v : Value}
    (hv : element s v) :
    EntryText element (quote ascii key.toList ++ a.1 ++ ':' :: b.1 ++ s) (.string key, v) := by
  have hentry := EntryText.mk (stringText_flatMap ascii key.toList) a.2 b.2 hv
  rw [String.ofList_toList] at hentry
  simpa only [quote, List.append_assoc, List.cons_append, List.nil_append] using hentry

/-- So are the entries, if their keys are texts. -/
theorem exists_writeEntries? {entries : List (String × Value)} (hne : entries ≠ [])
    (h : ∀ e ∈ entries, ∃ s, write? l level e.2 = some s ∧ element s e.2) :
    ∃ t, writeEntries? l level (textEntries entries) = some t ∧
      ∀ {a b}, Blank a → Blank b → EntriesText element (a ++ t ++ b) (textEntries entries) := by
  induction entries with
  | nil => exact absurd rfl hne
  | cons e es ih =>
    obtain ⟨s, hs, hv⟩ := h e List.mem_cons_self
    have hentry := entryText_quote l.ascii e.1 (a := l.beforeColon) (b := l.afterColon) hv
    cases es with
    | nil =>
      refine ⟨_, ?_, fun ha hb => .last ha hentry hb⟩
      simp only [textEntries, List.map_cons, List.map_nil, writeEntries?, keyText?, hs,
        Option.bind_some, List.isEmpty_nil, if_true]
    | cons e' es =>
      obtain ⟨t, ht, hentries⟩ := ih (by simp) fun u hu => h u (List.mem_cons_of_mem e hu)
      refine ⟨separated l level (quote l.ascii e.1.toList ++ l.beforeColon.1 ++
        ':' :: l.afterColon.1 ++ s) t, ?_, fun {a b} ha hb => ?_⟩
      · rw [textEntries_cons, writeEntries?, keyText?, Option.bind_some, hs, Option.bind_some,
          isEmpty_textEntries, if_neg (by simp), ht, Option.map_some]
      · have hmore := EntriesText.more ha hentry l.beforeComma.2
          (hentries (blank_append l.afterComma.2 (blank_line l level)) hb)
        simpa only [separated, List.append_assoc, List.cons_append, textEntries_cons] using hmore

end

/-! ## Values -/

section

variable {element : List Char → Value → Prop} {digits : Nat}

theorem valueText_truthText (b : Bool) : ValueTextWith element digits (truthText b) (.bool b) := by
  cases b
  · exact .false
  · exact .true

theorem valueText_quote (ascii : Bool) (s : String) :
    ValueTextWith element digits (quote ascii s.toList) (.string s) := by
  have htext :
      ValueTextWith element digits (quote ascii s.toList) (.string (String.ofList s.toList)) :=
    .string (stringText_flatMap ascii s.toList)
  rwa [String.ofList_toList] at htext

end

/-- **A value that fits is written, in any layout, and the text spells it.** -/
theorem exists_write?_of_fits (l : Style) {digits depth : Nat} {v : Value}
    (h : Fits digits depth v) (level : Nat) :
    ∃ s, write? l level v = some s ∧ ValueText digits depth s v := by
  induction h generalizing level with
  | null => exact ⟨_, rfl, .null⟩
  | bool b => exact ⟨_, rfl, valueText_truthText b⟩
  | integer h => exact ⟨_, rfl, .number (numberText_integerText h)⟩
  | string s => exact ⟨_, rfl, valueText_quote l.ascii s⟩
  | @list depth items _ ih =>
    by_cases hempty : items = []
    · subst hempty
      exact ⟨_, rfl, .emptyList blank_nil⟩
    · obtain ⟨t, ht, hitems⟩ := exists_writeItems? hempty fun v hv => ih v hv (level + 1)
      refine ⟨enclosed l level '[' ']' t, ?_, .list (hitems (blank_line l _) (blank_line l _))⟩
      rw [write?, if_neg (by simpa using hempty), ht, Option.map_some]
  | @dict depth entries hkeys _ ih =>
    by_cases hempty : entries = []
    · subst hempty
      exact ⟨_, rfl, .emptyObject blank_nil⟩
    · obtain ⟨t, ht, hentries⟩ := exists_writeEntries? hempty fun e he => ih e he (level + 1)
      refine ⟨enclosed l level '\x7b' '\x7d' t, ?_, ?_⟩
      · rw [write?, isEmpty_textEntries, if_neg (by simpa using hempty), ht, Option.map_some]
      · rw [← dictOf_of_nodup hkeys]
        exact .object (hentries (blank_line l _) (blank_line l _))

/-- With the limits of a reader for the whole text. -/
theorem exists_write?_wholeText (l : Style) {limits : Limits} {v : Value}
    (h : Fits limits.digits limits.depth v) :
    ∃ s, write? l 0 v = some s ∧ WholeText limits s v := by
  obtain ⟨s, hwrite, hspells⟩ := exists_write?_of_fits l h 0
  refine ⟨s, hwrite, ?_⟩
  have htext := WholeText.mk blank_nil hspells blank_nil
  rwa [List.nil_append, List.append_nil] at htext

end CredentialCheck.Json
