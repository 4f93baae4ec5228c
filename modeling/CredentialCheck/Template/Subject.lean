import CredentialCheck.Template.Fault
import CredentialCheck.Value.Equality

/-!
# What a template can show

A field shows an argument, or what its path leads to: a part of the argument, its class, the
classes above that, or what a class has under a name.

* `Subject.property` is the attribute of a name, `Subject.element` and `Subject.entry` the part
  under a number and under a text.
* `Subject.literal` and `Subject.display` are the subject as text.
-/

namespace CredentialCheck.Template

/-- Something that a template can show. -/
inductive Subject
  | value (v : Value)
  | ofClass (c : Class)
  /-- Several classes, in a tuple. -/
  | classes (cs : List Class)
  /-- A class narrowed to an element. -/
  | narrowed (c : Class) (element : Value)
  /-- What a class has under a name. -/
  | member (m : Member)
  /-- The same, held by something of the class. -/
  | held (m : Member) (holder : Subject)

namespace Subject

/-- The class to which the subject belongs. -/
def owner : Subject → Class
  | .value v => .ofValue v
  | .ofClass _ => .classes
  | .classes _ => .ofKind .tuple
  | .narrowed _ _ => .narrowed
  | .member m => m.freeClass
  | .held m _ => m.heldClass

/-! ## Texts -/

/-- Classes as the literal of a tuple. -/
def classesLiteral (cs : List Class) : String :=
  "(" ++ ", ".intercalate (cs.map Class.literal) ++ (if cs.length = 1 then ",)" else ")")

/-- A narrowed class as a literal. -/
def narrowedLiteral (c : Class) (element : Value) : String :=
  c.name ++ "[" ++ element.literal ++ "]"

/-- The subject as a literal. -/
def literal : Subject → String
  | .value v => v.literal
  | .ofClass c => c.literal
  | .classes cs => classesLiteral cs
  | .narrowed c element => narrowedLiteral c element
  | .member m => m.freeLiteral
  | .held m holder => m.heldLiteral holder.owner

/-- The subject as a literal in ASCII. -/
def literalAscii : Subject → String
  | .value v => v.literalAscii
  | .narrowed c element => c.name ++ "[" ++ element.literalAscii ++ "]"
  | x => x.literal

/-- The subject as text. -/
def display : Subject → String
  | .value v => v.display
  | x => x.literal

/-! ## Attributes -/

/-- The attribute of a number: its parts as a fraction or as a complex number. -/
def numberProperty? (v : Value) (name : String) : Option Value :=
  match v, name with
  | .integer n, "real" | .integer n, "numerator" => some (.integer n)
  | .integer _, "imag" => some (.integer 0)
  | .integer _, "denominator" => some (.integer 1)
  | .bool b, "real" | .bool b, "numerator" => some (.integer (Value.ofBool b))
  | .bool _, "imag" => some (.integer 0)
  | .bool _, "denominator" => some (.integer 1)
  | .float x, "real" => some (.float x)
  | .float _, "imag" => some (.float (.finite false 0))
  | _, _ => none

/-- The attribute that a class has of itself. -/
def classProperty? (c : Class) (name : String) : Option Subject :=
  match name with
  | "__name__" | "__qualname__" => some (.value (.string c.shortName))
  | "__module__" => some (.value (.string c.moduleName))
  | "__base__" => some ((c.parent?.map .ofClass).getD (.value .null))
  | "__bases__" => some (.classes c.parent?.toList)
  | "__mro__" => some (.classes c.lineage)
  | _ => none

/-- The attribute that a class and everything that belongs to it have alike. -/
def sharedProperty? (c : Class) (name : String) : Option Subject :=
  match name with
  | "__doc__" => some (.value c.description)
  | "__hash__" => if c.isHashable then none else some (.value .null)
  | _ => none

/-- What the class has under a name, as the class itself shows it: its functions it holds. -/
def classMember? (c : Class) (name : String) : Option Subject :=
  (Member.find? c name).map fun m =>
    if m.sort = .function then .held m (.ofClass c) else .member m

/-- The attribute of a class, which finds what belongs to it before what belongs to all classes. -/
def ofClassProperty? (c : Class) (name : String) : Option Subject :=
  (classProperty? c name).or <| (sharedProperty? c name).or <| (classMember? c name).or <|
    (Member.find? .classes name).map fun m => .held m (.ofClass c)

/-- The attributes of a class that a narrowed class does not show. -/
def hiddenNames : List String := ["__bases__", "__copy__", "__deepcopy__"]

/-- The attribute of a narrowed class. It shows the other attributes of the class as its own. -/
def narrowedProperty? (c : Class) (element : Value) (name : String) : Option Subject :=
  match name with
  | "__origin__" => some (.ofClass c)
  | "__args__" => some (.value (.tuple [element]))
  | "__parameters__" => some (.value (.tuple []))
  | "__unpacked__" => some (.value (.bool false))
  | "__typing_unpacked_tuple_args__" => some (.value .null)
  | name => if name ∈ hiddenNames then none else ofClassProperty? c name

/-- The attribute of what a class has under a name. -/
def memberProperty? (m : Member) (name : String) : Option Subject :=
  match name with
  | "__name__" => some (.value (.string m.name))
  | "__qualname__" => some (.value (.string (m.owner.shortName ++ "." ++ m.name)))
  | "__objclass__" => some (.ofClass m.owner)
  | _ => none

/-- The attribute of what something holds. Of an operation it tells the class, of a method the
module, which is none. -/
def heldProperty? (m : Member) (holder : Subject) (name : String) : Option Subject :=
  match m.sort, name with
  | _, "__self__" => some holder
  | .operation, name => memberProperty? m name
  | _, "__name__" => some (.value (.string m.name))
  | _, "__qualname__" =>
    let c := match holder with
      | .ofClass c => c
      | x => x.owner
    some (.value (.string (c.shortName ++ "." ++ m.name)))
  | _, "__module__" => some (.value .null)
  | _, _ => none

/-- The attribute that the subject has besides those that its class gives it. -/
def ownProperty? (x : Subject) (name : String) : Option Subject :=
  match x with
  | .value v => (numberProperty? v name).map .value
  | .ofClass c => ofClassProperty? c name
  | .classes _ => none
  | .narrowed c element => narrowedProperty? c element name
  | .member m => memberProperty? m name
  | .held m holder => heldProperty? m holder name

/-- The attribute that the class of the subject gives it. -/
def inheritedProperty? (x : Subject) (name : String) : Option Subject :=
  (sharedProperty? x.owner name).or ((Member.find? x.owner name).map fun m => .held m x)

/-- That the subject does not have an attribute of the name. -/
def noProperty (x : Subject) (name : String) : PathFault :=
  match x with
  | .ofClass c => .noClassAttribute c name
  | .narrowed c _ =>
    if name ∈ hiddenNames then .noAttribute .narrowed name else .noClassAttribute c name
  | x => .noAttribute x.owner name

/-- The attribute of a name. -/
def property (x : Subject) (name : String) : Except PathFault Subject :=
  if name = "__class__" then .ok (.ofClass x.owner)
  else
    match (x.ownProperty? name).or (x.inheritedProperty? name) with
    | some found => .ok found
    | none => .error (x.noProperty name)

/-! ## Elements -/

/-- The value under a key of a dictionary. -/
def underKey (entries : List (Value × Value)) (key : Value) : Except PathFault Subject :=
  match Value.lookup? entries key with
  | some v => .ok (.value v)
  | none => .error (.noKey key)

/-- The class narrowed to an element, if it can be. -/
def narrow (c : Class) (element : Value) : Except PathFault Subject :=
  if c.canBeNarrowed then .ok (.narrowed c element) else .error (.classNotSubscriptable c)

/-- The element of a sequence at a place, if it was found. -/
def atPlace (kind : Kind) (found : Option Subject) : Except PathFault Subject :=
  match found with
  | some x => .ok x
  | none => .error (.indexOutOfRange kind)

/-- The element that a number names: by its position in a sequence, by its key in a dictionary. -/
def element (x : Subject) (i : Nat) : Except PathFault Subject :=
  match x with
  | .value (.string s) =>
    atPlace .string (s.toList[i]?.map fun c => .value (.string (String.ofList [c])))
  | .value (.bytes bs) => atPlace .bytes (bs[i]?.map fun b => .value (.integer b.toNat))
  | .value (.byteArray bs) => atPlace .byteArray (bs[i]?.map fun b => .value (.integer b.toNat))
  | .value (.tuple items) => atPlace .tuple (items[i]?.map .value)
  | .value (.list items) => atPlace .list (items[i]?.map .value)
  | .value (.dict entries) => underKey entries (.integer i)
  | .ofClass c => narrow c (.integer i)
  | .classes cs => atPlace .tuple (cs[i]?.map .ofClass)
  | .narrowed c element => .error (.notGeneric (narrowedLiteral c element))
  | x => .error (.notSubscriptable x.owner)

/-- The element that a text names, which of values only a dictionary has. -/
def entry (x : Subject) (key : String) : Except PathFault Subject :=
  match x with
  | .value (.dict entries) => underKey entries (.string key)
  | .value (.string _) => .error (.indexNotInteger .string)
  | .value (.bytes _) => .error (.indexNotInteger .bytes)
  | .value (.byteArray _) => .error (.indexNotInteger .byteArray)
  | .value (.tuple _) => .error (.indexNotInteger .tuple)
  | .value (.list _) => .error (.indexNotInteger .list)
  | .classes _ => .error (.indexNotInteger .tuple)
  | .ofClass c => narrow c (.string key)
  | .narrowed c element => .error (.notGeneric (narrowedLiteral c element))
  | x => .error (.notSubscriptable x.owner)

end Subject

end CredentialCheck.Template
