import Scaffold.Template.TextMethod

/-!
# Methods

What the methods of lists, tuples and dictionaries do. Those that change a container change it in
the memory, for everyone who holds it. A method that is known by name only, or that is called in
another way than is known, is beyond what is read here; so is one of a text with surrogates, or with
such a text as an argument.
-/

namespace Scaffold.Template

namespace Memory

/-! ## Sequences -/

/-- A bound of a stretch of a sequence; a negative one counts from the end. -/
def bound (length : Nat) (i : Int) : Nat :=
  (max 0 (min (length : Int) (if i < 0 then i + length else i))).toNat

/-- Where the value stands first between two bounds; `missing` says that it stands nowhere. -/
def indexOf (m : Memory) (missing : Value → String) (items : List Handle) (x : Handle)
    (bounds : List Handle) : CallResult := do
  let ends ← bounds.mapM fun h => match (m.value h).index? with
    | some i => .ok (bound items.length i)
    | none => .error .typeMismatch
  let (first, last) := match ends with
    | [a] => (a, items.length)
    | [a, b] => (a, b)
    | _ => (0, items.length)
  match m.find? ((items.take last).drop first) x with
  | some i => .ok (number (first + i), m)
  | none => .error (.badValue (missing (m.value x)))

/-- Puts a value into a sorted list, behind those that are not greater. -/
def insertSorted (m : Memory) (x : Handle) : List Handle → Except Trouble (List Handle)
  | [] => .ok [x]
  | y :: ys => do
    if ← (m.value x).compare .less (m.value y) then .ok (x :: y :: ys)
    else (m.insertSorted x ys).map (y :: ·)

def sorted (m : Memory) (items : List Handle) : Except Trouble (List Handle) :=
  items.foldlM (fun done x => m.insertSorted x done) []

/-- The options of sorting: nothing but a direction can be asked for. -/
def sortBackwards (m : Memory) (options : List (String × Handle)) : Except Trouble Bool :=
  if options.any fun o => o.1 ≠ "key" && o.1 ≠ "reverse" then .error .typeMismatch
  else match options.lookup "key", options.lookup "reverse" with
    | none, backwards | some (.plain .null), backwards => match backwards with
      | none => .ok false
      | some h => match (m.value h).index? with
        | some i => .ok (i ≠ 0)
        | none => .error .typeMismatch
    | _, _ => .error .typeMismatch

/-- What lists and tuples have in common, but for what they say of a value that is missing. -/
def callSequence (m : Memory) (missing : Value → String) (items : List Handle) (name : String)
    (args : List Handle) : CallResult :=
  match name, args with
  | "count", [x] => .ok (number (items.countP fun y => m.same y x), m)
  | "index", x :: bounds =>
    if bounds.length ≤ 2 then m.indexOf missing items x bounds else .error .typeMismatch
  | "__len__", [] => .ok (number items.length, m)
  | "__contains__", [x] => .ok (.plain (.bool (m.find? items x).isSome), m)
  | "__getitem__", [key] => match itemAt? items key, (m.value key).index? with
    | some x, _ => .ok (x, m)
    | none, some _ => .error .noPlace
    | none, none => .error .typeMismatch
  | _, _ => .error .beyond

def missingFromList (x : Value) : String := x.shown ++ " is not in list"

def missingFromTuple (_ : Value) : String := "tuple.index(x): x not in tuple"

def callList (m : Memory) (place : Nat) (items : List Handle) (name : String)
    (args : Arguments) : CallResult :=
  let become (items : List Handle) : CallResult := .ok (nothing, m.set place (.list items))
  match name, args.values, args.options with
  | "append", [x], [] => become (items ++ [x])
  | "extend", [xs], [] => do
    let (more, m) ← m.elements xs
    .ok (nothing, m.set place (.list (items ++ more)))
  | "insert", [i, x], [] => do
    let n := bound items.length (← m.placeArgument i)
    become (items.take n ++ x :: items.drop n)
  | "remove", [x], [] => match m.find? items x with
    | some n => become (items.eraseIdx n)
    | none => .error (.badValue "list.remove(x): x not in list")
  | "pop", [], [] => match items.getLast? with
    | some x => .ok (x, m.set place (.list items.dropLast))
    | none => .error .noPlace
  | "pop", [i], [] => do
    match Value.place? items.length (← m.placeArgument i) with
    | none => .error .noPlace
    | some n => match items[n]? with
      | some x => .ok (x, m.set place (.list (items.eraseIdx n)))
      | none => .error .noPlace
  | "clear", [], [] => become []
  | "reverse", [], [] => become items.reverse
  | "copy", [], [] => .ok (m.add (.list items))
  | "sort", [], options => do
    if ← m.sortBackwards options then become (← m.sorted items.reverse).reverse
    else become (← m.sorted items)
  | "__setitem__", [i, x], [] => do
    match Value.place? items.length (← m.placeArgument i) with
    | some n => if n < items.length then become (items.set n x) else .error .noPlace
    | none => .error .noPlace
  | "__delitem__", [i], [] => do
    match Value.place? items.length (← m.placeArgument i) with
    | some n => if n < items.length then become (items.eraseIdx n) else .error .noPlace
    | none => .error .noPlace
  | name, values, [] => m.callSequence missingFromList items name values
  | _, _, _ => .error .beyond

/-! ## Dictionaries -/

/-- A key and a value from the element at a place, which has to have two elements. -/
def pairOf (m : Memory) (place : Nat) (h : Handle) :
    Except Trouble ((String × Handle) × Memory) := do
  let (items, m) ← m.elements h
  match items with
  | [key, x] => .ok ((← m.newKey key, x), m)
  | _ => .error (.badValue ("dictionary update sequence element #" ++ toString place
      ++ " has length " ++ toString items.length ++ "; 2 is required"))

/-- The fields that an update brings in: those of a dictionary, or pairs. -/
def updateFields (m : Memory) (h : Handle) : Except Trouble (List (String × Handle) × Memory) :=
  let pairs : Except Trouble (List (String × Handle) × Memory) := do
    let (items, m) ← m.elements h
    items.foldlM (fun (fields, m) item => do
      let (field, m) ← m.pairOf fields.length item
      .ok (fields ++ [field], m)) ([], m)
  match h with
  | .plain (.absent why) => .error (.undefined why.message)
  | .kept place => match m.get? place with
    | some (.dict fields) => .ok (fields, m)
    | _ => pairs
  | _ => pairs

def putAll (fields more : List (String × Handle)) : List (String × Handle) :=
  more.foldl (fun fields (key, x) => putField key x fields) fields

def fromKeys (m : Memory) (keys x : Handle) : CallResult := do
  let (items, m) ← m.elements keys
  let keys ← items.mapM m.newKey
  .ok (m.add (.dict (putAll [] (keys.map fun key => (key, x)))))

def callDict (m : Memory) (place : Nat) (fields : List (String × Handle)) (name : String)
    (args : Arguments) : CallResult :=
  let become (fields : List (String × Handle)) : CallResult :=
    .ok (nothing, m.set place (.dict fields))
  let find (key : Handle) : Except Trouble (Option (String × Handle)) := do
    .ok ((← m.keyArgument key).bind fun s => (fields.lookup s).map (s, ·))
  let without (key : String) : List (String × Handle) := fields.filter fun f => f.1 ≠ key
  match name, args.values, args.options with
  | "get", [key], [] => do .ok (((← find key).map (·.2)).getD nothing, m)
  | "get", [key, otherwise], [] => do .ok (((← find key).map (·.2)).getD otherwise, m)
  | "keys", [], [] => .ok (.view .keys place, m)
  | "values", [], [] => .ok (.view .values place, m)
  | "items", [], [] => .ok (.view .items place, m)
  | "copy", [], [] => .ok (m.add (.dict fields))
  | "clear", [], [] => become []
  | "pop", [key], [] => do
    match ← if fields.isEmpty then .ok none else find key with
    | some (key, x) => .ok (x, m.set place (.dict (without key)))
    | none => .error (m.noSuchKey key)
  | "pop", [key, otherwise], [] => do
    match ← if fields.isEmpty then .ok none else find key with
    | some (key, x) => .ok (x, m.set place (.dict (without key)))
    | none => .ok (otherwise, m)
  | "popitem", [], [] => match fields.getLast? with
    | some (key, x) => .ok ((m.set place (.dict fields.dropLast)).add (.tuple [text key, x]))
    | none => .error (.noKey (Value.str "popitem(): dictionary is empty").shown)
  | "setdefault", key :: rest, [] => do
    if 1 < rest.length then .error .typeMismatch
    else match ← find key with
      | some (_, x) => .ok (x, m)
      | none =>
        let x := rest.head?.getD nothing
        .ok (x, m.set place (.dict (fields ++ [(← m.newKey key, x)])))
  | "update", [], options => become (putAll fields options)
  | "update", [more], options => do
    let (more, m) ← m.updateFields more
    .ok (nothing, m.set place (.dict (putAll (putAll fields more) options)))
  | "fromkeys", [keys], [] => m.fromKeys keys nothing
  | "fromkeys", [keys, x], [] => m.fromKeys keys x
  | "__len__", [], [] => .ok (number fields.length, m)
  | "__contains__", [key], [] => do .ok (.plain (.bool (← find key).isSome), m)
  | "__getitem__", [key], [] => do
    match ← find key with
    | some (_, x) => .ok (x, m)
    | none => .error (m.noSuchKey key)
  | "__setitem__", [key, x], [] => do become (putField (← m.newKey key) x fields)
  | "__delitem__", [key], [] => do
    match ← find key with
    | some (key, _) => become (without key)
    | none => .error (m.noSuchKey key)
  | _, _, _ => .error .beyond

/-! ## Calls -/

def callCommon (m : Memory) (owner : Handle) (name : String) (args : Arguments) : CallResult :=
  match name, args.values, args.options with
  | "__str__", [], [] => .ok (.plain (.ofContent (m.value owner).content), m)
  | "__repr__", [], [] => .ok (text (m.value owner).shown, m)
  | "__bool__", [], [] => .ok (.plain (.bool (m.truthy owner)), m)
  | _, _, _ => .error .beyond

def callAbsent (m : Memory) (why : Absence) (name : String) (args : Arguments) : CallResult :=
  if Value.complaints.contains name then .error (.undefined why.message)
  else match name, args.values, args.options with
    | "__len__", [], [] => .ok (number 0, m)
    | "__eq__", [x], [] => .ok (.plain (.bool (m.type x = .absent)), m)
    | "__ne__", [x], [] => .ok (.plain (.bool (m.type x ≠ .absent)), m)
    | _, _, _ => m.callCommon (.plain (.absent why)) name args

def callMethod (m : Memory) (owner : Handle) (name : String) (args : Arguments) : CallResult :=
  let given := owner :: args.values ++ args.options.map (·.2)
  if let .plain (.absent why) := owner then m.callAbsent why name args
  else if given.any fun h => (m.value h).isRough then .error .beyond
  else if commonMethods.contains name || commonWrappers.contains name || name = "__bool__" then
    m.callCommon owner name args
  else match owner with
    | .kept place => match m.get? place with
      | some (.list items) => m.callList place items name args
      | some (.tuple items) =>
        if args.options.isEmpty then m.callSequence missingFromTuple items name args.values
        else .error .beyond
      | some (.dict fields) => m.callDict place fields name args
      | none => .error .typeMismatch
    | .plain (.str s) => m.callText s name args
    | .view _ _ =>
      if args.options.isEmpty && (name = "__len__" || name = "__contains__") then do
        let (items, m) ← m.elements owner
        m.callSequence missingFromTuple items name args.values
      else .error .beyond
    | _ => .error .beyond

end Memory

end Scaffold.Template
