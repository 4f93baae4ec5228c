import CredentialCheck.Value.Class

/-!
# Members of classes

What a class has under its names: methods, operations that an operator or a built-in function
stands for, properties, and functions of the class itself. `Member.find?` looks a name up in a
class and in the classes above it.
-/

namespace CredentialCheck

/-- What sort of thing stands under a name. -/
inductive MemberSort
  | method
  | operation
  | property
  /-- A function of the class itself, such as the one that makes its values. -/
  | function
  deriving DecidableEq, Repr

/-- What a class has under a name. -/
structure Member where
  sort : MemberSort
  owner : Class
  name : String
  deriving DecidableEq, Repr

/-! ## Tables of names -/

namespace Class

/-- The words of a text. -/
def words (lines : List String) : List String := lines.flatMap (·.splitOn " ")

/-- The comparisons, and how an attribute is found. -/
def comparisons : List String :=
  ["__lt__", "__le__", "__eq__", "__ne__", "__gt__", "__ge__", "__getattribute__"]

/-- The operations of numbers that need not be whole. -/
def arithmetic : List String := words [
  "__add__ __radd__ __sub__ __rsub__ __mul__ __rmul__ __mod__ __rmod__ __divmod__ __rdivmod__",
  "__pow__ __rpow__ __neg__ __pos__ __abs__ __bool__ __int__ __float__",
  "__floordiv__ __rfloordiv__ __truediv__ __rtruediv__"]

/-- The operations bit by bit. -/
def bitOperations : List String :=
  ["__and__", "__rand__", "__xor__", "__rxor__", "__or__", "__ror__"]

/-- The operations of sequences that stay as they are. -/
def sequenceOperations : List String :=
  words ["__repr__ __iter__ __len__ __add__ __mul__ __rmul__ __contains__"]

/-- The operations of sequences that can be changed. -/
def changingOperations : List String :=
  words ["__init__ __setitem__ __delitem__ __iadd__ __imul__"]

/-- The methods that texts and bytes share. -/
def textMethods : List String := words [
  "capitalize center count endswith expandtabs find index isalnum isalpha isascii isdigit islower",
  "isspace istitle isupper join ljust lower lstrip partition removeprefix removesuffix replace",
  "rfind rindex rjust rpartition rsplit rstrip split splitlines startswith strip swapcase title",
  "translate upper zfill"]

/-- The names of the methods that the class adds to those above it. -/
def methodNames : Class → List String
  | .ofKind .integer => words [
    "conjugate bit_length bit_count to_bytes as_integer_ratio __trunc__ __floor__ __ceil__",
    "__round__ __getnewargs__ __format__ __sizeof__"]
  | .ofKind .float => words [
    "conjugate __trunc__ __floor__ __ceil__ __round__ as_integer_ratio hex is_integer",
    "__getnewargs__ __format__"]
  | .ofKind .string => textMethods ++ words [
    "casefold encode format format_map isdecimal isidentifier isnumeric isprintable",
    "__format__ __sizeof__ __getnewargs__"]
  | .ofKind .bytes => textMethods ++ words ["decode hex __getnewargs__ __bytes__"]
  | .ofKind .byteArray => textMethods ++ words [
    "decode hex append clear copy extend insert pop remove reverse",
    "__alloc__ __reduce__ __reduce_ex__ __sizeof__"]
  | .ofKind .tuple => words ["index count __getnewargs__"]
  | .ofKind .set => words [
    "add clear copy discard difference difference_update intersection intersection_update",
    "isdisjoint issubset issuperset pop remove symmetric_difference symmetric_difference_update",
    "union update __contains__ __reduce__ __sizeof__"]
  | .ofKind .list => words [
    "append clear copy count extend index insert pop remove reverse sort",
    "__getitem__ __reversed__ __sizeof__"]
  | .ofKind .dict => words [
    "clear copy get items keys pop popitem setdefault update values",
    "__contains__ __getitem__ __reversed__ __sizeof__"]
  | .classes => words [
    "mro __subclasses__ __instancecheck__ __subclasscheck__ __dir__ __sizeof__"]
  | .top => words ["__reduce_ex__ __reduce__ __getstate__ __format__ __sizeof__ __dir__"]
  | _ => []

/-- The names of the operations that the class adds to those above it. -/
def operationNames : Class → List String
  | .ofKind .null => ["__repr__", "__bool__"]
  | .ofKind .bool => "__repr__" :: bitOperations
  | .ofKind .integer => comparisons ++ arithmetic ++ bitOperations ++ words [
    "__repr__ __hash__ __invert__ __lshift__ __rlshift__ __rshift__ __rrshift__ __index__"]
  | .ofKind .float => comparisons ++ arithmetic ++ ["__repr__", "__hash__"]
  | .ofKind .string | .ofKind .bytes => comparisons ++ sequenceOperations ++ words [
    "__hash__ __str__ __mod__ __rmod__ __getitem__"]
  | .ofKind .byteArray => comparisons ++ sequenceOperations ++ changingOperations ++ words [
    "__str__ __mod__ __rmod__ __getitem__"]
  | .ofKind .tuple => comparisons ++ sequenceOperations ++ ["__hash__", "__getitem__"]
  | .ofKind .list => comparisons ++ sequenceOperations ++ changingOperations
  | .ofKind .set => comparisons ++ bitOperations ++ words [
    "__repr__ __iter__ __init__ __len__ __sub__ __rsub__ __isub__ __iand__ __ixor__ __ior__"]
  | .ofKind .dict => comparisons ++ words [
    "__repr__ __iter__ __init__ __len__ __or__ __ror__ __ior__ __setitem__ __delitem__"]
  | .classes => words [
    "__repr__ __getattribute__ __setattr__ __delattr__ __init__ __call__ __or__ __ror__"]
  | .top => comparisons ++ words ["__init__ __repr__ __str__ __hash__ __setattr__ __delattr__"]
  | _ => []

/-- The names of the properties that the class adds to those above it. -/
def propertyNames : Class → List String
  | .ofKind .integer => ["real", "imag", "numerator", "denominator"]
  | .ofKind .float => ["real", "imag"]
  | _ => []

/-- The names of the functions that the class adds to those above it. -/
def functionNames : Class → List String
  | .ofKind .integer => ["__new__", "from_bytes"]
  | .ofKind .float => ["__new__", "fromhex", "__getformat__"]
  | .ofKind .string => ["__new__", "maketrans"]
  | .ofKind .bytes | .ofKind .byteArray => ["__new__", "fromhex", "maketrans"]
  | .ofKind .dict => ["__new__", "fromkeys", "__class_getitem__"]
  | .ofKind .tuple | .ofKind .set | .ofKind .list => ["__new__", "__class_getitem__"]
  | .classes => ["__new__", "__prepare__"]
  | .top => ["__new__", "__subclasshook__", "__init_subclass__"]
  | _ => ["__new__"]

end Class

/-! ## Looking names up -/

namespace Member

/-- What the class itself has under a name. -/
def ofClass? (c : Class) (name : String) : Option Member :=
  if name ∈ c.methodNames then some ⟨.method, c, name⟩
  else if name ∈ c.operationNames then some ⟨.operation, c, name⟩
  else if name ∈ c.propertyNames then some ⟨.property, c, name⟩
  else if name ∈ c.functionNames then some ⟨.function, c, name⟩
  else none

/-- What the class, or else the next class above it, has under a name. -/
def find? (c : Class) (name : String) : Option Member :=
  c.lineage.findSome? (ofClass? · name)

/-- The class of the member apart from any value. -/
def freeClass (m : Member) : Class :=
  match m.sort with
  | .method => .methods
  | .operation => .operations
  | .property => .properties
  | .function => .heldMethods

/-- The class of the member that something holds. -/
def heldClass (m : Member) : Class :=
  match m.sort with
  | .operation => .heldOperations
  | _ => .heldMethods

/-- The member apart from any value as a literal. -/
def freeLiteral (m : Member) : String :=
  let sort := match m.sort with
    | .operation => "slot wrapper"
    | .property => "attribute"
    | _ => "method"
  "<" ++ sort ++ " '" ++ m.name ++ "' of '" ++ m.owner.name ++ "' objects>"

/-- The member that something of class `holder` holds as a literal, which leaves out where in the
memory the holder is. -/
def heldLiteral (m : Member) (holder : Class) : String :=
  match m.sort with
  | .operation => "<method-wrapper '" ++ m.name ++ "' of " ++ holder.name ++ " object>"
  | _ => "<built-in method " ++ m.name ++ " of " ++ holder.name ++ " object>"

end Member

end CredentialCheck
