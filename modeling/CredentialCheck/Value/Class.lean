import CredentialCheck.Value.Basic

/-!
# Classes of values

Every value belongs to the class of its kind. Classes are things that can be shown and asked for
their own attributes: the name, the classes above, and a description. They belong to a class of
their own, and one class stands above all others. What a class has under a name (`Member`) belongs
to a class too, and so does a class of collections that is narrowed to some elements.
-/

namespace CredentialCheck

/-- A class. -/
inductive Class
  | ofKind (kind : Kind)
  /-- The class to which classes belong. -/
  | classes
  /-- The class above all others. -/
  | top
  /-- The class of classes that are narrowed to some elements. -/
  | narrowed
  /-- The class of methods apart from any value. -/
  | methods
  /-- The class of operations apart from any value. -/
  | operations
  /-- The class of properties apart from any value. -/
  | properties
  /-- The class of methods that something holds. -/
  | heldMethods
  /-- The class of operations that something holds. -/
  | heldOperations
  deriving DecidableEq, Repr

namespace Class

/-- The name of the class within its module. -/
def shortName : Class → String
  | .ofKind kind => kind.name
  | .classes => "type"
  | .top => "object"
  | .narrowed => "GenericAlias"
  | .methods => "method_descriptor"
  | .operations => "wrapper_descriptor"
  | .properties => "getset_descriptor"
  | .heldMethods => "builtin_function_or_method"
  | .heldOperations => "method-wrapper"

/-- The module of the class. -/
def module? : Class → Option String
  | .narrowed => some "types"
  | _ => none

/-- The name of the module, which those that are always there share. -/
def moduleName (c : Class) : String := c.module?.getD "builtins"

/-- The name of the class. -/
def name (c : Class) : String :=
  match c.module? with
  | some m => m ++ "." ++ c.shortName
  | none => c.shortName

/-- The class as a literal. -/
def literal (c : Class) : String := "<class '" ++ c.name ++ "'>"

/-- The class next above. Truth values are integers. -/
def parent? : Class → Option Class
  | .ofKind .bool => some (.ofKind .integer)
  | .top => none
  | _ => some .top

/-- The class itself and all above it, the next one first. -/
def lineage : Class → List Class
  | .ofKind .bool => [.ofKind .bool, .ofKind .integer, .top]
  | .top => [.top]
  | c => [c, .top]

/-- Whether values of the class can be keys. -/
def isHashable : Class → Bool
  | .ofKind .byteArray | .ofKind .set | .ofKind .list | .ofKind .dict => false
  | _ => true

/-- Whether the class can be narrowed to some elements: a class of collections, and the class of
classes. -/
def canBeNarrowed : Class → Bool
  | .ofKind .tuple | .ofKind .set | .ofKind .list | .ofKind .dict | .classes => true
  | _ => false

/-- The lines of what the class says of itself; none says nothing. -/
def descriptionLines : Class → List String
  | .ofKind .null => []
  | .ofKind .bool =>
    ["bool(x) -> bool", "", "Returns True when the argument x is true, False otherwise.",
      "The builtins True and False are the only two instances of the class bool.",
      "The class bool is a subclass of the class int, and cannot be subclassed."]
  | .ofKind .integer =>
    ["int([x]) -> integer", "int(x, base=10) -> integer", "",
      "Convert a number or string to an integer, or return 0 if no arguments",
      "are given.  If x is a number, return x.__int__().  For floating point",
      "numbers, this truncates towards zero.", "",
      "If x is not a number or if base is given, then x must be a string,",
      "bytes, or bytearray instance representing an integer literal in the",
      "given base.  The literal can be preceded by '+' or '-' and be surrounded",
      "by whitespace.  The base defaults to 10.  Valid bases are 0 and 2-36.",
      "Base 0 means to interpret the base from the string as an integer literal.",
      ">>> int('0b100', base=0)", "4"]
  | .ofKind .float =>
    ["Convert a string or number to a floating point number, if possible."]
  | .ofKind .string =>
    ["str(object='') -> str", "str(bytes_or_buffer[, encoding[, errors]]) -> str", "",
      "Create a new string object from the given object. If encoding or",
      "errors is specified, then the object must expose a data buffer",
      "that will be decoded using the given encoding and error handler.",
      "Otherwise, returns the result of object.__str__() (if defined)", "or repr(object).",
      "encoding defaults to sys.getdefaultencoding().", "errors defaults to 'strict'."]
  | .ofKind .bytes =>
    ["bytes(iterable_of_ints) -> bytes", "bytes(string, encoding[, errors]) -> bytes",
      "bytes(bytes_or_buffer) -> immutable copy of bytes_or_buffer",
      "bytes(int) -> bytes object of size given by the parameter initialized with null bytes",
      "bytes() -> empty bytes object", "", "Construct an immutable array of bytes from:",
      "  - an iterable yielding integers in range(256)",
      "  - a text string encoded using the specified encoding",
      "  - any object implementing the buffer API.", "  - an integer"]
  | .ofKind .byteArray =>
    ["bytearray(iterable_of_ints) -> bytearray",
      "bytearray(string, encoding[, errors]) -> bytearray",
      "bytearray(bytes_or_buffer) -> mutable copy of bytes_or_buffer",
      "bytearray(int) -> bytes array of size given by the parameter initialized with null bytes",
      "bytearray() -> empty bytes array", "", "Construct a mutable bytearray object from:",
      "  - an iterable yielding integers in range(256)",
      "  - a text string encoded using the specified encoding",
      "  - a bytes or a buffer object", "  - any object implementing the buffer API.",
      "  - an integer"]
  | .ofKind .tuple =>
    ["Built-in immutable sequence.", "",
      "If no argument is given, the constructor returns an empty tuple.",
      "If iterable is specified the tuple is initialized from iterable's items.", "",
      "If the argument is a tuple, the return value is the same object."]
  | .ofKind .set =>
    ["set() -> new empty set object", "set(iterable) -> new set object", "",
      "Build an unordered collection of unique elements."]
  | .ofKind .list =>
    ["Built-in mutable sequence.", "",
      "If no argument is given, the constructor creates a new empty list.",
      "The argument must be an iterable if specified."]
  | .ofKind .dict =>
    ["dict() -> new empty dictionary",
      "dict(mapping) -> new dictionary initialized from a mapping object's",
      "    (key, value) pairs", "dict(iterable) -> new dictionary initialized as if via:",
      "    d = \x7b\x7d", "    for k, v in iterable:", "        d[k] = v",
      "dict(**kwargs) -> new dictionary initialized with the name=value pairs",
      "    in the keyword argument list.  For example:  dict(one=1, two=2)"]
  | .classes =>
    ["type(object) -> the object's type", "type(name, bases, dict, **kwds) -> a new type"]
  | .top =>
    ["The base class of the class hierarchy.", "",
      "When called, it accepts no arguments and returns a new featureless",
      "instance that has no instance attributes and cannot be given any.", ""]
  | .narrowed =>
    ["Represent a PEP 585 generic type", "",
      "E.g. for t = list[int], t.__origin__ is list and t.__args__ is (int,)."]
  | _ => []

/-- What the class says of itself, as a loose value. -/
def description (c : Class) : Value :=
  match c.descriptionLines with
  | [] => .null
  | lines => .string ("\n".intercalate lines)

/-- The class to which a value belongs. -/
def ofValue (v : Value) : Class := .ofKind v.kind

end Class

end CredentialCheck
