import Scaffold.Template.Memory

/-!
# Members and items

What can be taken from a value. `x.name` looks for a member of the type first and then for the key
`name`; `x[key]` looks for the key or place first and then for a member. What is found nowhere is
missing, and from a missing value nothing but the members of its type can be taken.
-/

namespace Scaffold.Template

/-- The methods of all types. -/
def commonMethods : List String :=
  ["__dir__", "__format__", "__getstate__", "__init_subclass__", "__new__", "__reduce__",
    "__reduce_ex__", "__sizeof__", "__subclasshook__"]

/-- The methods of all types that operators call. -/
def commonWrappers : List String :=
  ["__delattr__", "__doc__", "__eq__", "__ge__", "__getattribute__", "__gt__", "__init__", "__le__",
    "__lt__", "__ne__", "__repr__", "__setattr__", "__str__"]

/-- The methods that numbers have for each operator, for either side. -/
def arithmetic : List String :=
  ["__abs__", "__add__", "__bool__", "__divmod__", "__float__", "__floordiv__", "__hash__",
    "__int__", "__mod__", "__mul__", "__neg__", "__pos__", "__pow__", "__radd__", "__rdivmod__",
    "__rfloordiv__", "__rmod__", "__rmul__", "__rpow__", "__rsub__", "__rtruediv__", "__sub__",
    "__truediv__"]

/-- The methods of a missing value that are its own. -/
def absentMethods : List String :=
  Value.complaints ++ ["__aiter__", "__bool__", "__eq__", "__getattr__", "__hash__", "__init__",
    "__iter__", "__len__", "__ne__", "__repr__", "__str__"]

/-- The methods of the views that are sets. -/
def setWrappers : List String :=
  ["__and__", "__contains__", "__iter__", "__len__", "__or__", "__rand__", "__ror__", "__rsub__",
    "__rxor__", "__sub__", "__xor__"]

namespace Kind

/-- The methods that a type has besides the common ones. -/
def methods : Kind → List String
  | dict =>
    ["__class_getitem__", "__contains__", "__getitem__", "__reversed__", "clear", "copy",
      "fromkeys", "get", "items", "keys", "pop", "popitem", "setdefault", "update", "values"]
  | list =>
    ["__class_getitem__", "__getitem__", "__reversed__", "append", "clear", "copy", "count",
      "extend", "index", "insert", "pop", "remove", "reverse", "sort"]
  | tuple => ["__class_getitem__", "__getnewargs__", "count", "index"]
  | text =>
    ["__getnewargs__", "capitalize", "casefold", "center", "count", "encode", "endswith",
      "expandtabs", "find", "format", "format_map", "index", "isalnum", "isalpha", "isascii",
      "isdecimal", "isdigit", "isidentifier", "islower", "isnumeric", "isprintable", "isspace",
      "istitle", "isupper", "join", "ljust", "lower", "lstrip", "maketrans", "partition",
      "removeprefix", "removesuffix", "replace", "rfind", "rindex", "rjust", "rpartition",
      "rsplit", "rstrip", "split", "splitlines", "startswith", "strip", "swapcase", "title",
      "translate", "upper", "zfill"]
  | int | bool =>
    ["__ceil__", "__floor__", "__getnewargs__", "__round__", "__trunc__", "as_integer_ratio",
      "bit_count", "bit_length", "conjugate", "from_bytes", "to_bytes"]
  | float =>
    ["__ceil__", "__floor__", "__getformat__", "__getnewargs__", "__round__", "__trunc__",
      "as_integer_ratio", "conjugate", "fromhex", "hex", "is_integer"]
  | view .keys | view .items => ["__reversed__", "isdisjoint", "mapping"]
  | view .values => ["__reversed__", "mapping"]
  | _ => []

/-- The methods that operators call and that a type has besides the common ones. -/
def wrappers : Kind → List String
  | dict =>
    ["__delitem__", "__ior__", "__iter__", "__len__", "__or__", "__ror__", "__setitem__"]
  | list =>
    ["__add__", "__contains__", "__delitem__", "__iadd__", "__imul__", "__iter__", "__len__",
      "__mul__", "__rmul__", "__setitem__"]
  | tuple =>
    ["__add__", "__contains__", "__getitem__", "__hash__", "__iter__", "__len__", "__mul__",
      "__rmul__"]
  | text =>
    ["__add__", "__contains__", "__getitem__", "__hash__", "__iter__", "__len__", "__mod__",
      "__mul__", "__rmod__", "__rmul__"]
  | int | bool =>
    arithmetic ++ ["__and__", "__index__", "__invert__", "__lshift__", "__or__", "__rand__",
      "__rlshift__", "__ror__", "__rrshift__", "__rshift__", "__rxor__", "__xor__"]
  | float => arithmetic
  | null => ["__bool__", "__hash__"]
  | helper =>
    ["__annotations__", "__builtins__", "__call__", "__code__", "__dict__", "__get__",
      "__globals__", "__hash__", "__module__", "__name__", "__qualname__"]
  | method | wrapper | bound => ["__call__", "__hash__", "__name__", "__qualname__", "__self__"]
  | view .keys | view .items => setWrappers
  | view .values => ["__hash__", "__iter__", "__len__"]
  | kind => ["__call__", "__dict__", "__hash__", "__module__", "__mro__", "__qualname__", "mro"]
  | template => ["__dict__", "__getitem__", "__hash__", "__module__", "__weakref__"]
  | absent => []

/-- Values of the type can be changed and are no keys. -/
def isChangeable : Kind → Bool
  | list | dict | view .keys | view .items => true
  | _ => false

def method? (k : Kind) (name : String) : Option Kind :=
  if k = .absent && absentMethods.contains name then some .bound
  else if k.methods.contains name || commonMethods.contains name then some .method
  else if k.wrappers.contains name || commonWrappers.contains name then some .wrapper
  else none

end Kind

namespace Value

/-- The members of numbers that are numbers. -/
def numberPart? (x : Value) (name : String) : Option Value :=
  match x, name with
  | .bool b, "real" | .bool b, "numerator" => some (.int (if b then 1 else 0))
  | .int n, "real" | .int n, "numerator" => some (.int n)
  | .bool _, "imag" | .int _, "imag" => some (.int 0)
  | .bool _, "denominator" | .int _, "denominator" => some (.int 1)
  | .float x, "real" => some (.float x)
  | .float _, "imag" => some (.float (.finite false 0 Number.Binary64.minExponent))
  | _, _ => none

/-- The place that an integer names in a sequence; a negative one counts from the end. -/
def place? (length : Nat) (i : Int) : Option Nat :=
  let i := if i < 0 then i + length else i
  if i < 0 then none else some i.toNat

/-- The integer that a value is as a place. -/
def index? : Value → Option Int
  | .int n => some n
  | .bool b => some (if b then 1 else 0)
  | _ => none

end Value

namespace Memory

/-- The names that types and methods have as members. -/
def ownName? (h : Handle) (name : String) : Option Value :=
  match h, name with
  | .plain (.kind k), "__name__" | .plain (.kind k), "__qualname__" => some (.str k.shortName)
  | .method _ method _, "__name__" => some (.str method)
  | _, _ => none

/-- What a type gives its values as a member. -/
def member? (m : Memory) (h : Handle) (name : String) : Option Handle :=
  let k := m.type h
  let part := match h with
    | .plain x => (x.numberPart? name).or (ownName? h name)
    | h => ownName? h name
  if name = "__class__" then some (.plain (.kind k))
  else if name = "__hash__" && k.isChangeable then some (.plain .null)
  else match part with
    | some x => some (.plain x)
    | none => (k.method? name).map fun type => .method h name type

def itemAt? {α : Type} (items : List α) (key : Handle) : Option α :=
  match key with
  | .plain x => x.index?.bind fun i => (Value.place? items.length i).bind fun n => items[n]?
  | _ => none

def item? (m : Memory) (h key : Handle) : Option Handle :=
  match h with
  | .kept place => match m.get? place, key with
    | some (.dict fields), .plain (.str s) => fields.lookup s
    | some (.list items), key | some (.tuple items), key => itemAt? items key
    | _, _ => none
  | .plain (.str s) => (itemAt? s.toList key).map fun c => .plain (.str (String.ofList [c]))
  | .plain (.rough c) => (itemAt? c.points key).map fun p => .plain (.ofContent ⟨[p]⟩)
  | _ => none

def noMember (m : Memory) (h : Handle) (name : String) : Handle :=
  .plain (.absent (.member (m.type h).description name))

/-- The value of `h.name`. -/
def member (m : Memory) (h : Handle) (name : String) : Except Trouble Handle :=
  match m.member? h name, h with
  | some x, _ => .ok x
  | none, .plain (.absent why) => .error (.undefined why.message)
  | none, h => .ok ((m.item? h (.plain (.str name))).getD (m.noMember h name))

/-- The value of `h[key]`. -/
def item (m : Memory) (h key : Handle) : Except Trouble Handle :=
  match h, key with
  | .plain (.absent why), _ => .error (.undefined why.message)
  | h, .plain (.str s) => .ok (((m.item? h key).or (m.member? h s)).getD (m.noMember h s))
  | _, .plain (.rough _) => .error .beyond
  | h, key =>
    let missing : Absence := .element (m.type h).description (m.value key).shown
    .ok ((m.item? h key).getD (.plain (.absent missing)))

end Memory

end Scaffold.Template
