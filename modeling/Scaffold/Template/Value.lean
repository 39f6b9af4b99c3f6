import Scaffold.Json.Basic
import Scaffold.Number.Extended
import Scaffold.Number.Shortest
import Scaffold.Template.Trouble
import Scaffold.Text.Content

/-!
# Values in templates

The values that a template computes with: those of JSON, tuples, the helpers, what values have as
members, and values that are not there. A missing value prints as nothing and counts as false; what
it says when it is used is its `Absence`. A text with surrogates is a value too, but little is known
of it besides what it prints as.
-/

namespace Scaffold.Template

open Number Text

/-- The functions that templates can call. -/
inductive Helper where
  | eq
  | ne
  | includes
  | or
  | and
  | not
  | json
  | capitalize
  | pascalCase
  | camelCase
  deriving DecidableEq, Repr

namespace Helper

def all : List Helper :=
  [.eq, .ne, .includes, .or, .and, .not, .json, .capitalize, .pascalCase, .camelCase]

def name : Helper → String
  | eq => "eq"
  | ne => "ne"
  | includes => "includes"
  | .or => "or"
  | .and => "and"
  | .not => "not"
  | json => "json"
  | capitalize => "capitalize"
  | pascalCase => "pascalCase"
  | camelCase => "camelCase"

/-- The name is a word of the expression language. -/
def isOperator : Helper → Bool
  | .or | .and | .not => true
  | _ => false

def ofName? (s : String) : Option Helper := all.find? fun h => h.name = s

end Helper

/-- Why a value is not there. -/
inductive Absence where
  | name (name : String)
  | member (type name : String)
  /-- `key` is shown as it prints inside a list. -/
  | element (type key : String)
  /-- An inline condition is false and says nothing for that case. -/
  | branch (line : Nat) (template : String)
  deriving DecidableEq, Repr

def Absence.message : Absence → String
  | name n => quoted n ++ " is undefined"
  | member type n => quoted type ++ " has no attribute " ++ quoted n
  | element type key => type ++ " has no element " ++ key
  | branch line template =>
    "the inline if-expression on line " ++ toString line ++ " in '" ++ template
      ++ "' evaluated to false and no else section was defined."

/-- A part of a dictionary that can be looked at by itself. -/
inductive Part where
  | keys
  | values
  | items
  deriving DecidableEq, Repr

inductive Kind where
  | null
  | bool
  | int
  | float
  | text
  | list
  | tuple
  | dict
  | view (part : Part)
  | helper
  | method
  /-- A method that an operator calls. -/
  | wrapper
  /-- A method of a missing value. -/
  | bound
  | kind
  | template
  | absent
  deriving DecidableEq, Repr

def Part.kindName : Part → String
  | keys => "dict_keys"
  | values => "dict_values"
  | items => "dict_items"

def Kind.name : Kind → String
  | null => "NoneType"
  | bool => "bool"
  | int => "int"
  | float => "float"
  | text => "str"
  | list => "list"
  | tuple => "tuple"
  | dict => "dict"
  | view part => part.kindName
  | helper => "function"
  | method => "builtin_function_or_method"
  | wrapper => "method-wrapper"
  | bound => "method"
  | kind => "type"
  | template => "jinja2.runtime.TemplateReference"
  | absent => "Undefined"

def Kind.shortName : Kind → String
  | template => "TemplateReference"
  | k => k.name

/-- The name of a type with where it belongs. -/
def Kind.fullName : Kind → String
  | absent => "jinja2.runtime.Undefined"
  | k => k.name

/-- How messages call a value of a type. -/
def Kind.description : Kind → String
  | null => "None"
  | k => k.name ++ " object"

structure Method where
  name : String
  kind : Kind
  /-- Where the value is kept, if it is one that is shared. -/
  owner? : Option Nat
  deriving DecidableEq, Repr

inductive Value where
  | null
  | bool (b : Bool)
  | int (n : Int)
  | float (x : Binary64)
  | str (s : String)
  /-- A text with a surrogate in it. -/
  | rough (content : Content)
  | list (items : List Value)
  | tuple (items : List Value)
  | dict (fields : List (String × Value))
  | view (part : Part) (fields : List (String × Value))
  | helper (h : Helper)
  | method (m : Method)
  | kind (k : Kind)
  /-- The template itself. -/
  | template (name : String)
  | absent (why : Absence)
  /-- A container of this kind that holds itself, where it comes again. -/
  | again (k : Kind)
  deriving Inhabited

namespace Value

def ofContent (c : Content) : Value :=
  match c.text? with
  | some s => .str s
  | none => .rough c

def isRough : Value → Bool
  | .rough _ => true
  | _ => false

/-- Integers from here on have more digits than are read or written in base ten. -/
def longBound : Nat := Nat.pow 10 4300

def isLong (n : Int) : Bool := longBound ≤ n.natAbs

mutual

/-- A value of a kind is in it: the check is made for integers and doubles. -/
def holds (int : Int → Bool) (float : Binary64 → Bool) : Value → Bool
  | .int n => int n
  | .float x => float x
  | .list items | .tuple items => holdsItem int float items
  | .dict fields | .view _ fields => holdsField int float fields
  | _ => false

def holdsItem (int : Int → Bool) (float : Binary64 → Bool) : List Value → Bool
  | [] => false
  | x :: xs => holds int float x || holdsItem int float xs

def holdsField (int : Int → Bool) (float : Binary64 → Bool) : List (String × Value) → Bool
  | [] => false
  | (_, x) :: fs => holds int float x || holdsField int float fs

end

/-- An integer in it is too long to be written. -/
def hasLongInteger (x : Value) : Bool := x.holds isLong fun _ => false

/-- A double in it is infinite. -/
def hasInfinity (x : Value) : Bool :=
  x.holds (fun _ => false) fun
    | .infinite _ => true
    | _ => false

/-! ## JSON inside and outside -/

mutual

def ofJson : Json → Value
  | .null => .null
  | .bool b => .bool b
  | .int n => .int n
  | .float x => .float x
  | .str s => .str s
  | .arr items => .list (ofItems items)
  | .obj fields => .dict (ofFields fields)

def ofItems : List Json → List Value
  | [] => []
  | x :: xs => ofJson x :: ofItems xs

def ofFields : List (String × Json) → List (String × Value)
  | [] => []
  | (key, x) :: fs => (key, ofJson x) :: ofFields fs

end

mutual

/-- The JSON value, or the trouble with the first part that has none. -/
def toJson : Value → Except Trouble Json
  | .null => .ok .null
  | .bool b => .ok (.bool b)
  | .int n => if isLong n then .error .longInteger else .ok (.int n)
  | .float x => .ok (.float x)
  | .str s => .ok (.str s)
  | .rough _ => .error .beyond
  | .list items | .tuple items => (toItems items).map .arr
  | .dict fields => (toFields fields).map .obj
  | .view part _ => .error (.unserializable part.kindName)
  | .helper _ => .error (.unserializable Kind.helper.shortName)
  | .method m => .error (.unserializable m.kind.shortName)
  | .kind _ => .error (.unserializable Kind.kind.shortName)
  | .template _ => .error (.unserializable Kind.template.shortName)
  | .absent _ => .error (.unserializable Kind.absent.shortName)
  | .again _ => .error (.badValue "Circular reference detected")

def toItems : List Value → Except Trouble (List Json)
  | [] => .ok []
  | x :: xs => do
    let y ← toJson x
    let ys ← toItems xs
    .ok (y :: ys)

def toFields : List (String × Value) → Except Trouble (List (String × Json))
  | [] => .ok []
  | (key, x) :: fs => do
    let y ← toJson x
    let gs ← toFields fs
    .ok ((key, y) :: gs)

end

def truthy : Value → Bool
  | .null | .absent _ => false
  | .bool b => b
  | .int n => n ≠ 0
  | .float x => !x.isZero
  | .str s => s ≠ ""
  | .list items | .tuple items => !items.isEmpty
  | .dict fields | .view _ fields => !fields.isEmpty
  | .rough _ | .helper _ | .method _ | .kind _ | .template _ | .again _ => true

def type : Value → Kind
  | .null => .null
  | .bool _ => .bool
  | .int _ => .int
  | .float _ => .float
  | .str _ | .rough _ => .text
  | .list _ => .list
  | .tuple _ => .tuple
  | .dict _ => .dict
  | .view part _ => .view part
  | .helper _ => .helper
  | .method m => m.kind
  | .kind _ => .kind
  | .template _ => .template
  | .absent _ => .absent
  | .again k => k

/-- A value that a constant in a template may have. -/
def isPlain : Value → Bool
  | .null | .bool _ | .int _ | .float _ | .str _ | .rough _ => true
  | .list items | .tuple items => allPlain items
  | _ => false
where
  /-- All of them are. -/
  allPlain : List Value → Bool
    | [] => true
    | x :: xs => isPlain x && allPlain xs

/-! ## Printing -/

/-- The methods of a missing value that say what is missing, whatever they are called with. -/
def complaints : List String :=
  ["__add__", "__call__", "__complex__", "__div__", "__float__", "__floordiv__", "__ge__",
    "__getitem__", "__gt__", "__int__", "__le__", "__lt__", "__mod__", "__mul__", "__neg__",
    "__pos__", "__pow__", "__radd__", "__rdiv__", "__rfloordiv__", "__rmod__", "__rmul__",
    "__rpow__", "__rsub__", "__rtruediv__", "__sub__", "__truediv__"]

/-- A method of a missing value shows what it does, other methods their names. -/
def methodText (m : Method) : String :=
  match m.kind with
  | .bound =>
    let name := if complaints.contains m.name then "_fail_with_undefined_error" else m.name
    "<bound method Undefined." ++ name ++ " of Undefined>"
  | _ => "<method " ++ m.name ++ ">"

/-- A container that holds itself, shortened. -/
def ellipsis : Kind → String
  | .list => "[...]"
  | .dict => "\x7b...\x7d"
  | _ => "(...)"

/-- Items between parentheses; a single one has a comma after it. -/
def tupleText : List String → String
  | [x] => "(" ++ x ++ ",)"
  | xs => "(" ++ ", ".intercalate xs ++ ")"

mutual

/-- How a value stands inside a list or a dictionary. -/
def shown : Value → String
  | .null => "None"
  | .bool b => if b then "True" else "False"
  | .int n => String.ofList (intText n)
  | .float x => String.ofList x.text
  | .str s => quoted s
  | .rough c => c.quoted
  | .list items => "[" ++ ", ".intercalate (shownItems items) ++ "]"
  | .tuple items => tupleText (shownItems items)
  | .dict fields => "\x7b" ++ ", ".intercalate (shownFields fields) ++ "\x7d"
  | .view part fields =>
    part.kindName ++ "([" ++ ", ".intercalate (shownPart part fields) ++ "])"
  | .helper h => "<function " ++ h.name ++ ">"
  | .method m => methodText m
  | .kind k => "<class " ++ quoted k.fullName ++ ">"
  | .template name => "<TemplateReference " ++ quoted name ++ ">"
  | .absent _ => "Undefined"
  | .again k => ellipsis k

def shownItems : List Value → List String
  | [] => []
  | x :: xs => shown x :: shownItems xs

def shownFields : List (String × Value) → List String
  | [] => []
  | (key, x) :: fs => (quoted key ++ ": " ++ shown x) :: shownFields fs

def shownPart (part : Part) : List (String × Value) → List String
  | [] => []
  | (key, x) :: fs =>
    (match part with
      | .keys => quoted key
      | .values => shown x
      | .items => tupleText [quoted key, shown x]) :: shownPart part fs

end

/-- What a value prints as; a text stands for itself and a missing value for nothing. -/
def content : Value → Content
  | .str s => s
  | .rough c => c
  | .absent _ => ""
  | x => shown x

/-! ## Equality and order -/

/-- The number that a value counts as: truth values are one and zero. -/
def number? : Value → Option Extended
  | .bool b => some (.ofInt (if b then 1 else 0))
  | .int n => some (.ofInt n)
  | .float x => some (.ofBinary64 x)
  | _ => none

mutual

/-- Equality: numbers by value, dictionaries without regard to order, missing values all alike. -/
def same : Value → Value → Bool
  | .null, .null => true
  | .str s, .str t => s = t
  | .rough c, .rough d => c = d
  | .list xs, .list ys => sameItems xs ys
  | .tuple xs, .tuple ys => sameItems xs ys
  | .dict fs, .dict gs => fs.length = gs.length && sameFields fs gs
  | .view .keys fs, .view .keys gs =>
    fs.length = gs.length && fs.all fun f => (gs.lookup f.1).isSome
  | .view .items fs, .view .items gs => fs.length = gs.length && sameFields fs gs
  | .helper h, .helper k => h = k
  | .method m, .method n => m = n && m.owner?.isSome
  | .kind k, .kind l => k = l
  | .template n, .template m => n = m
  | .absent _, .absent _ => true
  | .again k, .again l => k = l
  | .bool a, y => sameNumber (.bool a) y
  | .int a, y => sameNumber (.int a) y
  | .float a, y => sameNumber (.float a) y
  | _, _ => false
where
  /-- Equality of two values as numbers. -/
  sameNumber (x y : Value) : Bool :=
    match x.number?, y.number? with
    | some a, some b => a.same b
    | _, _ => false

def sameItems : List Value → List Value → Bool
  | [], [] => true
  | x :: xs, y :: ys => same x y && sameItems xs ys
  | _, _ => false

/-- Every field has an equal one under the same key. -/
def sameFields : List (String × Value) → List (String × Value) → Bool
  | [], _ => true
  | (key, x) :: fs, gs =>
    (match gs.lookup key with
      | some y => same x y
      | none => false) && sameFields fs gs

end

inductive Relation where
  | less
  | lessOrSame
  | greater
  | greaterOrSame
  deriving DecidableEq, Repr

namespace Relation

def onNumbers (r : Relation) (a b : Extended) : Bool :=
  match r with
  | less => a.less b
  | lessOrSame => a.less b || a.same b
  | greater => b.less a
  | greaterOrSame => b.less a || a.same b

def onTexts (r : Relation) (s t : String) : Bool :=
  match r with
  | less => s < t
  | lessOrSame => !(t < s)
  | greater => t < s
  | greaterOrSame => !(s < t)

def onLengths (r : Relation) (m n : Nat) : Bool :=
  match r with
  | less => m < n
  | lessOrSame => m ≤ n
  | greater => n < m
  | greaterOrSame => n ≤ m

end Relation

/-- What is wrong with comparing values: a missing one is used, or the types do not fit. -/
def orderTrouble : Value → Value → Trouble
  | .absent why, _ => .undefined why.message
  | _, .absent why => .undefined why.message
  | .rough _, .str _ | .str _, .rough _ | .rough _, .rough _ => .beyond
  | _, _ => .typeMismatch

mutual

/-- Order: numbers by value, texts by code points, lists and tuples by their first difference. -/
def compare (r : Relation) : Value → Value → Except Trouble Bool
  | .str s, .str t => .ok (r.onTexts s t)
  | .list xs, .list ys => compareItems r xs ys
  | .tuple xs, .tuple ys => compareItems r xs ys
  | x, y => match x.number?, y.number? with
    | some a, some b => .ok (r.onNumbers a b)
    | _, _ => .error (orderTrouble x y)

def compareItems (r : Relation) : List Value → List Value → Except Trouble Bool
  | x :: xs, y :: ys => if same x y then compareItems r xs ys else compare r x y
  | xs, ys => .ok (r.onLengths xs.length ys.length)

end

end Value

end Scaffold.Template
