import CredentialCheck.Pattern.Expression
import CredentialCheck.Text.DecimalDigit

/-!
# Reading pattern expressions

The written form of expressions: `.`, `$`, sets in brackets, groups in parentheses, `|` between
alternatives, and the repetitions `*`, `+`, `?` and `{m,n}` behind what they repeat. A backslash
takes the special meaning from the character behind it. A brace that opens no repetition stands
for itself. The dialect has no anchor for the beginning of the text and no escapes that begin with
a letter or a digit.

Reading has two stages. `tokens` cuts the text into tokens, each with its position; a fault in the
form of a token is a token too, so faults come to light in the order of their positions. `read`
puts the tokens together, with one `Level` for each group that is still open.
-/

namespace CredentialCheck.Pattern

/-! ## Why an expression cannot be read -/

/-- What is wrong with a written expression. -/
inductive Cause
  | unterminatedSet
  | unterminatedGroup
  | unbalancedGroup
  | nothingToRepeat
  | multipleRepeat
  /-- A repetition with a greater lower than upper bound. -/
  | boundsReversed
  /-- A range of characters that ends before it begins. -/
  | badRange (low high : List Char)
  | danglingBackslash
  | badEscape (c : Char)
  | startAnchor
  deriving DecidableEq, Repr

/-- A cause in words. -/
def Cause.message : Cause → String
  | .unterminatedSet => "unterminated character set"
  | .unterminatedGroup => "missing ), unterminated subpattern"
  | .unbalancedGroup => "unbalanced parenthesis"
  | .nothingToRepeat => "nothing to repeat"
  | .multipleRepeat => "multiple repeat"
  | .boundsReversed => "min repeat greater than max repeat"
  | .badRange low high => "bad character range " ++ String.ofList (low ++ '-' :: high)
  | .danglingBackslash => "bad escape (end of pattern)"
  | .badEscape c => "bad escape " ++ String.ofList ['\\', c]
  | .startAnchor => "unsupported start anchor"

/-- A cause and the position, in characters, at which it is noticed. -/
structure Fault where
  cause : Cause
  position : Nat
  deriving DecidableEq, Repr

/-- The fault in words. -/
def Fault.message (f : Fault) : String :=
  f.cause.message ++ " at position " ++ toString f.position

/-! ## Signs -/

/-- A token of a written expression. -/
inductive Token
  | atom (e : Expression)
  | openGroup
  | closeGroup
  | bar
  | repetition (least : Nat) (most : Option Nat)
  | broken (fault : Fault)
  deriving DecidableEq, Repr

/-- Whether the character may stand behind a backslash. -/
def isEscapable (c : Char) : Bool := !c.isAlphanum

/-! ## Sets of characters -/

/-- One character of a set, written plainly or behind a backslash, with its written form. `none`
at the end of the text. -/
def readSetChar (position : Nat) :
    List Char → Option (Except Fault (Char × List Char × List Char))
  | [] => none
  | ['\\'] => some (.error ⟨.danglingBackslash, position⟩)
  | '\\' :: c :: s =>
    if isEscapable c then some (.ok (c, ['\\', c], s)) else some (.error ⟨.badEscape c, position⟩)
  | c :: s => some (.ok (c, [c], s))

/-- The items of a set up to its closing bracket, which at the very beginning stands for itself,
and the rest behind it. `opened` is the position of the opening bracket. -/
def readSetItems (opened : Nat) : (fuel : Nat) → (isFirst : Bool) → (position : Nat) →
    List Char → Except Fault (List SetItem × List Char)
  | 0, _, _, _ => .error ⟨.unterminatedSet, opened⟩
  | fuel + 1, isFirst, position, s =>
    match s, isFirst with
    | ']' :: s, false => .ok ([], s)
    | s, _ =>
      match readSetChar position s with
      | none => .error ⟨.unterminatedSet, opened⟩
      | some (.error f) => .error f
      | some (.ok (low, lowText, s)) =>
        let position := position + lowText.length
        match s with
        | '-' :: ']' :: s => .ok ([.single low, .single '-'], s)
        | '-' :: s =>
          match readSetChar (position + 1) s with
          | none => .error ⟨.unterminatedSet, opened⟩
          | some (.error f) => .error f
          | some (.ok (high, highText, s)) =>
            if high < low then
              .error ⟨.badRange lowText highText, position - lowText.length⟩
            else
              (readSetItems opened fuel false (position + 1 + highText.length) s).map
                fun (items, s) => (.range low high :: items, s)
        | s =>
          (readSetItems opened fuel false position s).map
            fun (items, s) => (.single low :: items, s)

/-- A set, from behind its opening bracket. -/
def readSet (opened : Nat) (s : List Char) : Except Fault (Expression × List Char) :=
  match s with
  | '^' :: s =>
    (readSetItems opened (s.length + 1) true (opened + 2) s).map
      fun (items, s) => (.char (.noneOf items), s)
  | s =>
    (readSetItems opened (s.length + 1) true (opened + 1) s).map
      fun (items, s) => (.char (.oneOf items), s)

/-! ## Bounds of repetitions -/

/-- The decimal number that the digits spell, if there are any. -/
def numberOf (digits : List Char) : Option Nat :=
  if digits.isEmpty then none
  else some (Text.numberOfDigits digits)

/-- The bounds of a repetition, from behind the opening brace, and the rest behind the closing
one. A brace with nothing in it opens no repetition. -/
def readBounds (s : List Char) : Option ((Nat × Option Nat) × List Char) :=
  let low := s.takeWhile Char.isDigit
  let close (high : Option Nat) (s : List Char) : Option ((Nat × Option Nat) × List Char) :=
    match s with
    | '}' :: s => some (((numberOf low).getD 0, high), s)
    | _ => none
  match s, s.dropWhile Char.isDigit with
  | '}' :: _, _ => none
  | _, ',' :: t => close (numberOf (t.takeWhile Char.isDigit)) (t.dropWhile Char.isDigit)
  | _, t => close (numberOf low) t

/-! ## The signs of a text -/

/-- The first token of a text that is not empty, and the rest behind it. -/
def readToken (position : Nat) (c : Char) (s : List Char) : Token × List Char :=
  match c with
  | '.' => (.atom (.char .any), s)
  | '$' => (.atom .atEnd, s)
  | '^' => (.broken ⟨.startAnchor, position⟩, s)
  | '(' => (.openGroup, s)
  | ')' => (.closeGroup, s)
  | '|' => (.bar, s)
  | '*' => (.repetition 0 none, s)
  | '+' => (.repetition 1 none, s)
  | '?' => (.repetition 0 (some 1), s)
  | '[' =>
    match readSet position s with
    | .ok (e, s) => (.atom e, s)
    | .error f => (.broken f, s)
  | '{' =>
    match readBounds s with
    | some ((least, most), s) =>
      if most.any (· < least) then (.broken ⟨.boundsReversed, position + 1⟩, s)
      else (.repetition least most, s)
    | none => (.atom (.char (.literal c)), s)
  | '\\' =>
    match s with
    | [] => (.broken ⟨.danglingBackslash, position⟩, [])
    | d :: s =>
      if isEscapable d then (.atom (.char (.literal d)), s)
      else (.broken ⟨.badEscape d, position⟩, s)
  | c => (.atom (.char (.literal c)), s)

/-- The tokens of a text with their positions. Every token takes up a character at least, so the
length of the text bounds their number. -/
def tokensFrom : (fuel : Nat) → (position : Nat) → List Char → List (Nat × Token)
  | 0, _, _ => []
  | _, _, [] => []
  | fuel + 1, position, c :: s =>
    let (token, rest) := readToken position c s
    (position, token) :: tokensFrom fuel (position + (s.length + 1 - rest.length)) rest

/-- The tokens of a text. -/
def tokens (s : List Char) : List (Nat × Token) := tokensFrom s.length 0 s

/-! ## Putting signs together -/

/-- A part of a sequence, and whether it is a repetition already. -/
structure Part where
  expression : Expression
  isRepetition : Bool

/-- A group that is still open (or the whole expression): its position, the alternatives before
the present one, and the parts of the present one, each with the latest first. -/
structure Level where
  opened : Nat
  branches : List Expression
  parts : List Part

/-- A group of which nothing has been read. -/
def Level.start (opened : Nat) : Level := ⟨opened, [], []⟩

/-- The present alternative. -/
def Level.branch (l : Level) : Expression :=
  match l.parts with
  | [] => .empty
  | last :: earlier => earlier.foldl (fun e part => .seq part.expression e) last.expression

/-- The whole group. -/
def Level.expression (l : Level) : Expression :=
  l.branches.foldl (fun e earlier => .alt earlier e) l.branch

/-- The group with one more part. -/
def Level.push (l : Level) (e : Expression) : Level := { l with parts := ⟨e, false⟩ :: l.parts }

/-- The group with its last part repeated. -/
def Level.repeatLast (l : Level) (position least : Nat) (most : Option Nat) :
    Except Fault Level :=
  match l.parts with
  | [] => .error ⟨.nothingToRepeat, position⟩
  | ⟨.atEnd, _⟩ :: _ => .error ⟨.nothingToRepeat, position⟩
  | ⟨_, true⟩ :: _ => .error ⟨.multipleRepeat, position⟩
  | ⟨e, false⟩ :: earlier => .ok { l with parts := ⟨.repeated e least most, true⟩ :: earlier }

/-- Puts tokens together. `inner` is the innermost open group and `outer` those around it, the
innermost first. -/
def assemble (inner : Level) (outer : List Level) : List (Nat × Token) → Except Fault Expression
  | [] =>
    match outer with
    | [] => .ok inner.expression
    | _ :: _ => .error ⟨.unterminatedGroup, inner.opened⟩
  | (_, .atom e) :: ts => assemble (inner.push e) outer ts
  | (position, .openGroup) :: ts => assemble (Level.start position) (inner :: outer) ts
  | (position, .closeGroup) :: ts =>
    match outer with
    | [] => .error ⟨.unbalancedGroup, position⟩
    | next :: outer => assemble (next.push inner.expression) outer ts
  | (_, .bar) :: ts =>
    assemble { inner with branches := inner.branch :: inner.branches, parts := [] } outer ts
  | (position, .repetition least most) :: ts =>
    match inner.repeatLast position least most with
    | .ok inner => assemble inner outer ts
    | .error f => .error f
  | (_, .broken f) :: _ => .error f

/-- The expression that a text describes. -/
def Expression.read (s : String) : Except Fault Expression :=
  assemble (Level.start 0) [] (tokens s.toList)

end CredentialCheck.Pattern
