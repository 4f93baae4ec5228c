/-!
# Pattern expressions

Expressions that describe texts: single characters, sequences, alternatives, repetitions, and the
end of the text. An expression is given a meaning by what it leaves over: `rests e s` holds the
rest of `s` behind each of its beginnings that `e` describes. An expression describes a whole text
when it can leave nothing over (`matchesWhole`).

* `Flags` widen the meaning: a point may stand for a line feed too, and letters may match in
  either case. Letters of either case include four that are not ASCII: the long s (U+017F), the
  Kelvin sign (U+212A), and the letters i with and without a dot (U+0130, U+0131).
* A repetition takes no more steps than the text has characters, so it ends.
-/

namespace CredentialCheck.Pattern

/-! ## Expressions -/

/-- How an expression is to be read. -/
structure Flags where
  /-- Letters match in either case. -/
  ignoreCase : Bool
  /-- A point matches a line feed too. -/
  dotAll : Bool
  deriving DecidableEq, Repr

/-- No flag set. -/
def Flags.none : Flags := ⟨false, false⟩

/-- One member of a set of characters. -/
inductive SetItem
  | single (c : Char)
  | range (low high : Char)
  deriving DecidableEq, Repr

/-- Whether the item names the character. -/
def SetItem.holds : SetItem → Char → Bool
  | .single d, c => d == c
  | .range low high, c => low.toNat ≤ c.toNat && c.toNat ≤ high.toNat

/-- What a single character is asked to be. -/
inductive CharTest
  | literal (c : Char)
  /-- Any character; the line feed only under `dotAll`. -/
  | any
  | oneOf (items : List SetItem)
  | noneOf (items : List SetItem)
  deriving DecidableEq, Repr

/-- An expression. -/
inductive Expression
  /-- The empty text. -/
  | empty
  | char (test : CharTest)
  /-- Nothing, at the end of the text or in front of a line feed that ends it. -/
  | atEnd
  | seq (first second : Expression)
  | alt (left right : Expression)
  /-- At least `least` times, and at most `most` times if that is given. -/
  | repeated (body : Expression) (least : Nat) (most : Option Nat)
  deriving DecidableEq, Repr

/-! ## Characters -/

/-- A letter stripped of its case. Other characters stand for themselves. -/
def foldCase (c : Char) : Char :=
  if 'A' ≤ c ∧ c ≤ 'Z' then Char.ofNat (c.toNat + 32)
  else if c = Char.ofNat 0x130 ∨ c = Char.ofNat 0x131 then 'i'
  else if c = Char.ofNat 0x17F then 's'
  else if c = Char.ofNat 0x212A then 'k'
  else c

/-- The characters that are the same letter as `c` when case is ignored. -/
def caseVariants (c : Char) : List Char :=
  let lower := foldCase c
  let upper := if 'a' ≤ lower ∧ lower ≤ 'z' then [Char.ofNat (lower.toNat - 32)] else []
  let special :=
    if lower = 'i' then [Char.ofNat 0x130, Char.ofNat 0x131]
    else if lower = 's' then [Char.ofNat 0x17F]
    else if lower = 'k' then [Char.ofNat 0x212A]
    else []
  lower :: upper ++ special

/-- Whether the item names the character under the flags. -/
def SetItem.admits (flags : Flags) (item : SetItem) (c : Char) : Bool :=
  if flags.ignoreCase then (caseVariants c).any item.holds else item.holds c

/-- Whether the character passes the test under the flags. -/
def CharTest.admits (flags : Flags) : CharTest → Char → Bool
  | .literal d, c => (SetItem.single d).admits flags c
  | .any, c => flags.dotAll || c != '\n'
  | .oneOf items, c => items.any (·.admits flags c)
  | .noneOf items, c => !items.any (·.admits flags c)

/-! ## What an expression leaves over -/

/-- Whether the expression describes the empty text somewhere. -/
def Expression.mayBeEmpty : Expression → Bool
  | .empty => true
  | .char _ => false
  | .atEnd => true
  | .seq first second => first.mayBeEmpty && second.mayBeEmpty
  | .alt left right => left.mayBeEmpty || right.mayBeEmpty
  | .repeated body least _ => least == 0 || body.mayBeEmpty

/-- What is left of the texts after exactly `n` steps. -/
def exactly (step : List Char → List (List Char)) : Nat → List (List Char) → List (List Char)
  | 0, rests => rests
  | n + 1, rests => exactly step n (rests.flatMap step)

/-- What is left of the texts after at most `n` steps. -/
def atMost (step : List Char → List (List Char)) : Nat → List (List Char) → List (List Char)
  | 0, rests => rests
  | _, [] => []
  | n + 1, rests => rests ++ atMost step n (rests.flatMap step)

/-- A step that has to leave less. -/
def shortening (step : List Char → List (List Char)) (s : List Char) : List (List Char) :=
  (step s).filter (·.length < s.length)

/-- The rests of a text behind the beginnings that the expression describes. What may be empty is
repeated beyond its least number only as long as it leaves less. -/
def Expression.rests (flags : Flags) : Expression → List Char → List (List Char)
  | .empty, s => [s]
  | .char _, [] => []
  | .char test, c :: s => if test.admits flags c then [s] else []
  | .atEnd, s => if s = [] ∨ s = ['\n'] then [s] else []
  | .seq first second, s => (first.rests flags s).flatMap (second.rests flags)
  | .alt left right, s => left.rests flags s ++ right.rests flags s
  | .repeated body least most, s =>
    let step := body.rests flags
    let more := match most with
      | some m => m - least
      | none => s.length
    atMost (if body.mayBeEmpty then shortening step else step) more (exactly step least [s])

/-- Whether the expression describes the whole text. -/
def Expression.matchesWhole (flags : Flags) (e : Expression) (s : List Char) : Bool :=
  (e.rests flags s).any List.isEmpty

end CredentialCheck.Pattern
