import CredentialCheck.Json.Reader
import CredentialCheck.Text.DecimalDigit

/-!
# The grammar of JSON texts

Which texts are JSON, and what they spell, said without a reader. The grammar is that of RFC 8259,
with the words `NaN`, `Infinity` and `-Infinity` for numbers, and with limits: on the nesting of
lists and objects, and on the digits in front of the point of a number.

Each relation holds between a text and what it spells. A value is spelled inside lists and objects
to a certain depth (`ValueText`), so the relation for its parts (`element`) is that for one level
less. A value on no level left is spelled by nothing: it counts as one level itself.
-/

namespace CredentialCheck.Json.Grammar

open Text

/-! ## White space and numbers -/

/-- White space. -/
def Blank (s : List Char) : Prop := ∀ c ∈ s, c ∈ [' ', '\t', '\n', '\r']

/-- Digits, one at least. -/
def Digits (s : List Char) : Prop := s ≠ [] ∧ ∀ c ∈ s, c.isDigit = true

/-- The digits in front of the point: a zero alone, or digits of which the first is none. -/
def Whole (s : List Char) : Prop := Digits s ∧ (s.head? = some '0' → s = ['0'])

/-- A point and the digits behind it, or nothing. -/
inductive Fraction : List Char → Option (List Char) → Prop
  | absent : Fraction [] none
  | present {s : List Char} (h : Digits s) : Fraction ('.' :: s) (some s)

/-- An exponent, or nothing. -/
inductive Exponent : List Char → Option Int → Prop
  | absent : Exponent [] none
  | plain {mark : Char} {s : List Char} (hmark : mark ∈ ['e', 'E']) (h : Digits s) :
    Exponent (mark :: s) (some (numberOfDigits s))
  | plus {mark : Char} {s : List Char} (hmark : mark ∈ ['e', 'E']) (h : Digits s) :
    Exponent (mark :: '+' :: s) (some (numberOfDigits s))
  | minus {mark : Char} {s : List Char} (hmark : mark ∈ ['e', 'E']) (h : Digits s) :
    Exponent (mark :: '-' :: s) (some (-numberOfDigits s))

/-- The number of its parts: an integer without a fraction and an exponent, else a double. -/
def numberOfParts (negative : Bool) (whole : List Char) (places : Option (List Char))
    (exponent : Option Int) : Value :=
  if places.isNone ∧ exponent.isNone then
    .integer (if negative then -(numberOfDigits whole : Int) else numberOfDigits whole)
  else
    .float (.ofDecimal negative (numberOfDigits (whole ++ places.getD []))
      (exponent.getD 0 - (places.getD []).length))

/-- A number with at most `maxDigits` digits in front of its point. -/
inductive NumberText (maxDigits : Nat) : List Char → Value → Prop
  | unsigned {w f x : List Char} {places : Option (List Char)} {exponent : Option Int}
    (hw : Whole w) (hlength : w.length ≤ maxDigits) (hf : Fraction f places)
    (hx : Exponent x exponent) :
    NumberText maxDigits (w ++ f ++ x) (numberOfParts false w places exponent)
  | signed {w f x : List Char} {places : Option (List Char)} {exponent : Option Int}
    (hw : Whole w) (hlength : w.length ≤ maxDigits) (hf : Fraction f places)
    (hx : Exponent x exponent) :
    NumberText maxDigits ('-' :: (w ++ f ++ x)) (numberOfParts true w places exponent)

/-! ## Strings -/

/-- The characters that have an escape of one letter. -/
def shortEscape? : Char → Option Char
  | '"' => some '"'
  | '\\' => some '\\'
  | '/' => some '/'
  | 'b' => some '\x08'
  | 'f' => some '\x0C'
  | 'n' => some '\n'
  | 'r' => some '\r'
  | 't' => some '\t'
  | _ => none

/-- Four hexadecimal digits and their number. -/
inductive Hex4 : List Char → Nat → Prop
  | mk {a b c d : Char} {i j k l : Nat} (ha : hexValue? a = some i) (hb : hexValue? b = some j)
    (hc : hexValue? c = some k) (hd : hexValue? d = some l) :
    Hex4 [a, b, c, d] (((i * 16 + j) * 16 + k) * 16 + l)

/-- A character between quotation marks: as it is, by a letter, or by its number; one beyond U+FFFF
by the numbers of two surrogates. -/
inductive CharText : List Char → Char → Prop
  | plain {c : Char} (hcontrol : 0x20 ≤ c.toNat) (hquote : c ≠ '"') (hbackslash : c ≠ '\\') :
    CharText [c] c
  | short {letter c : Char} (h : shortEscape? letter = some c) : CharText ['\\', letter] c
  | numbered {s : List Char} {n : Nat} (h : Hex4 s n) (hhigh : isHighSurrogate n = false)
    (hlow : isLowSurrogate n = false) : CharText ('\\' :: 'u' :: s) (Char.ofNat n)
  | pair {s t : List Char} {high low : Nat} (hs : Hex4 s high) (ht : Hex4 t low)
    (hhigh : isHighSurrogate high = true) (hlow : isLowSurrogate low = true) :
    CharText ('\\' :: 'u' :: s ++ '\\' :: 'u' :: t) (Char.ofNat (pairValue high low))

/-- A text between quotation marks. -/
inductive StringText : List Char → List Char → Prop
  | nil : StringText [] []
  | cons {s t : List Char} {c : Char} {cs : List Char} (hc : CharText s c) (ht : StringText t cs) :
    StringText (s ++ t) (c :: cs)

/-! ## Values -/

section

variable (element : List Char → Value → Prop)

/-- The elements of a list, one at least, up to the bracket. -/
inductive ElementsText : List Char → List Value → Prop
  | last {a s b : List Char} {v : Value} (ha : Blank a) (hv : element s v) (hb : Blank b) :
    ElementsText (a ++ s ++ b) [v]
  | more {a s b t : List Char} {v : Value} {vs : List Value} (ha : Blank a) (hv : element s v)
    (hb : Blank b) (ht : ElementsText t vs) : ElementsText (a ++ s ++ b ++ ',' :: t) (v :: vs)

/-- The key and the value of an entry. -/
inductive EntryText : List Char → Value × Value → Prop
  | mk {k key a b s : List Char} {v : Value} (hk : StringText k key) (ha : Blank a) (hb : Blank b)
    (hv : element s v) :
    EntryText ('"' :: k ++ '"' :: a ++ ':' :: b ++ s) (.string (String.ofList key), v)

/-- The entries of an object, one at least, up to the brace. -/
inductive EntriesText : List Char → List (Value × Value) → Prop
  | last {a s b : List Char} {e : Value × Value} (ha : Blank a) (he : EntryText element s e)
    (hb : Blank b) : EntriesText (a ++ s ++ b) [e]
  | more {a s b t : List Char} {e : Value × Value} {es : List (Value × Value)} (ha : Blank a)
    (he : EntryText element s e) (hb : Blank b) (ht : EntriesText t es) :
    EntriesText (a ++ s ++ b ++ ',' :: t) (e :: es)

/-- A value, with `element` for the values directly inside it. -/
inductive ValueTextWith (maxDigits : Nat) : List Char → Value → Prop
  | null : ValueTextWith maxDigits "null".toList .null
  | true : ValueTextWith maxDigits "true".toList (.bool true)
  | false : ValueTextWith maxDigits "false".toList (.bool false)
  | nan : ValueTextWith maxDigits "NaN".toList (.float .nan)
  | infinity : ValueTextWith maxDigits "Infinity".toList (.float (.infinite false))
  | negativeInfinity : ValueTextWith maxDigits "-Infinity".toList (.float (.infinite true))
  | number {s : List Char} {v : Value} (h : NumberText maxDigits s v) : ValueTextWith maxDigits s v
  | string {s cs : List Char} (h : StringText s cs) :
    ValueTextWith maxDigits ('"' :: s ++ ['"']) (.string (String.ofList cs))
  | emptyList {a : List Char} (ha : Blank a) :
    ValueTextWith maxDigits ('[' :: a ++ [']']) (.list [])
  | list {s : List Char} {vs : List Value} (h : ElementsText element s vs) :
    ValueTextWith maxDigits ('[' :: s ++ [']']) (.list vs)
  | emptyObject {a : List Char} (ha : Blank a) :
    ValueTextWith maxDigits ('{' :: a ++ ['}']) (.dict [])
  | object {s : List Char} {es : List (Value × Value)} (h : EntriesText element s es) :
    ValueTextWith maxDigits ('{' :: s ++ ['}']) (Value.dictOf es)

end

/-- A value inside which lists and objects are nested at most `depth` deep, with itself. -/
def ValueText (maxDigits : Nat) : (depth : Nat) → List Char → Value → Prop
  | 0 => fun _ _ => False
  | depth + 1 => ValueTextWith (ValueText maxDigits depth) maxDigits

/-- A whole text: a value between white space. -/
inductive WholeText (limits : Limits) : List Char → Value → Prop
  | mk {a s b : List Char} {v : Value} (ha : Blank a)
    (hv : ValueText limits.digits limits.depth s v) (hb : Blank b) :
    WholeText limits (a ++ s ++ b) v

end CredentialCheck.Json.Grammar
