import CredentialCheck.Value.Member
import CredentialCheck.Value.Render

/-!
# What can go wrong when a template is filled in

One constructor for each cause, and its wording in `Fault.message`. The groups follow the work:
the form of the template, the numbering of its fields, the arguments, the path behind a field's
name, and the layout asked for.
-/

namespace CredentialCheck

/-- A step into a value that the value does not allow. -/
inductive PathFault
  /-- Something of the class does not have the attribute. -/
  | noAttribute (c : Class) (name : String)
  /-- The class itself does not have the attribute. -/
  | noClassAttribute (c : Class) (name : String)
  | notSubscriptable (c : Class)
  | classNotSubscriptable (c : Class)
  /-- A class, shown by its literal, that cannot be narrowed any further. -/
  | notGeneric (literal : String)
  /-- A sequence is indexed by a text. -/
  | indexNotInteger (kind : Kind)
  | indexOutOfRange (kind : Kind)
  | noKey (key : Value)

/-- The fault in words. -/
def PathFault.message : PathFault → String
  | .noAttribute c name =>
    Text.quoted c.name ++ " object has no attribute " ++ "'" ++ name ++ "'"
  | .noClassAttribute c name =>
    "type object " ++ Text.quoted c.name ++ " has no attribute " ++ "'" ++ name ++ "'"
  | .notSubscriptable c => Text.quoted c.name ++ " object is not subscriptable"
  | .classNotSubscriptable c => "type " ++ Text.quoted c.name ++ " is not subscriptable"
  | .notGeneric literal => literal ++ " is not a generic class"
  | .indexNotInteger .string => "string indices must be integers, not 'str'"
  | .indexNotInteger .bytes => "byte indices must be integers or slices, not str"
  | .indexNotInteger kind => kind.name ++ " indices must be integers or slices, not str"
  | .indexOutOfRange .string => "string index out of range"
  | .indexOutOfRange .bytes => "index out of range"
  | .indexOutOfRange kind => kind.name ++ " index out of range"
  | .noKey key => key.literal

namespace Template

/-- Why a template cannot be filled in. -/
inductive Fault
  /-- A closing brace that closes nothing. -/
  | loneCloseBrace
  /-- An opening brace at the very end. -/
  | loneOpenBrace
  | braceInName
  | unclosedField
  | endInConversion
  | noColonAfterConversion
  | unclosedSpec
  /-- A field in the layout of a field in the layout of a field. -/
  | nestedTooDeep
  | numberTooLarge
  /-- A field without a number after a numbered one. -/
  | automaticAfterExplicit
  /-- A numbered field after one without a number. -/
  | explicitAfterAutomatic
  | noPositional (index : Nat)
  | noKeyword (name : String)
  | emptyStep
  | unclosedBracket
  | stepAfterBracket
  | path (fault : PathFault)
  | unknownConversion (c : Char)
  | bothSeparators
  | missingPrecision
  | invalidSpec (spec : String) (kind : Kind)
  | separatorNotAllowed (separator type : Char)
  | unknownType (type : Char) (kind : Kind)
  | spaceForText
  | signForText
  | zeroSignForText
  | alternateForText
  | innerAlignForText
  | precisionForInteger
  | zeroSignForInteger
  | signForCharacter
  | alternateForCharacter
  /-- An integer of so many digits that it is not shown. -/
  | tooManyDigits
  | characterTooLarge
  | characterOutOfRange
  | integerTooLargeForFloat
  | precisionTooLarge
  /-- A width for which there is no memory. -/
  | tooWide
  /-- A layout for something that has none. -/
  | noLayout (c : Class)
  /-- The template is not a text. -/
  | notATemplate (kind : Kind)

/-- A character that a message quotes: as it is between the space and `bound`, by its number
otherwise. -/
def quoteCode (bound : Nat) (c : Char) : String :=
  if 0x20 < c.toNat ∧ c.toNat < bound then String.ofList [c]
  else "\\x" ++ String.ofList (Nat.toDigits 16 c.toNat)

/-- The fault in words. -/
def Fault.message : Fault → String
  | .loneCloseBrace => "Single '\x7d' encountered in format string"
  | .loneOpenBrace => "Single '\x7b' encountered in format string"
  | .braceInName => "unexpected '\x7b' in field name"
  | .unclosedField => "expected '\x7d' before end of string"
  | .endInConversion => "end of string while looking for conversion specifier"
  | .noColonAfterConversion => "expected ':' after conversion specifier"
  | .unclosedSpec => "unmatched '\x7b' in format spec"
  | .nestedTooDeep => "Max string recursion exceeded"
  | .numberTooLarge => "Too many decimal digits in format string"
  | .automaticAfterExplicit =>
    "cannot switch from manual field specification to automatic field numbering"
  | .explicitAfterAutomatic =>
    "cannot switch from automatic field numbering to manual field specification"
  | .noPositional index =>
    "Replacement index " ++ toString index ++ " out of range for positional args tuple"
  | .noKeyword name => Text.quoted name
  | .emptyStep => "Empty attribute in format string"
  | .unclosedBracket => "Missing ']' in format string"
  | .stepAfterBracket => "Only '.' or '[' may follow ']' in format field specifier"
  | .path fault => fault.message
  | .unknownConversion c => "Unknown conversion specifier " ++ quoteCode 0x7F c
  | .bothSeparators => "Cannot specify both ',' and '_'."
  | .missingPrecision => "Format specifier missing precision"
  | .invalidSpec spec kind =>
    "Invalid format specifier '" ++ spec ++ "' for object of type '" ++ kind.name ++ "'"
  | .separatorNotAllowed separator type =>
    "Cannot specify '" ++ String.ofList [separator] ++ "' with '" ++ quoteCode 0x80 type ++ "'."
  | .unknownType type kind =>
    "Unknown format code '" ++ quoteCode 0x80 type ++ "' for object of type '" ++ kind.name ++ "'"
  | .spaceForText => "Space not allowed in string format specifier"
  | .signForText => "Sign not allowed in string format specifier"
  | .zeroSignForText => "Negative zero coercion (z) not allowed in string format specifier"
  | .alternateForText => "Alternate form (#) not allowed in string format specifier"
  | .innerAlignForText => "'=' alignment not allowed in string format specifier"
  | .precisionForInteger => "Precision not allowed in integer format specifier"
  | .zeroSignForInteger => "Negative zero coercion (z) not allowed in integer format specifier"
  | .signForCharacter => "Sign not allowed with integer format specifier 'c'"
  | .alternateForCharacter => "Alternate form (#) not allowed with integer format specifier 'c'"
  | .tooManyDigits =>
    "Exceeds the limit (" ++ toString Value.maxDigits ++ " digits) for integer string conversion; " ++
      "use sys.set_int_max_str_digits() to increase the limit"
  | .characterTooLarge => "Python int too large to convert to C long"
  | .characterOutOfRange => "%c arg not in range(0x110000)"
  | .integerTooLargeForFloat => "int too large to convert to float"
  | .precisionTooLarge => "precision too big"
  | .tooWide => ""
  | .noLayout c => "unsupported format string passed to " ++ c.name ++ ".__format__"
  | .notATemplate kind => (PathFault.noAttribute (.ofKind kind) "format").message

end Template

end CredentialCheck
