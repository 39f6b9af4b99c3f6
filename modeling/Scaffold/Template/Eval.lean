import Scaffold.Template.Expr
import Scaffold.Template.Helper
import Scaffold.Template.Method
import Scaffold.Text.Compose

/-!
# Evaluation

What an expression stands for. It is evaluated in a `Scope`: the slots of the names and the memory,
which calls may change. An expression can be evaluated already while its template is compiled; then
names and calls have no value, and a trouble only says that the expression is no constant.
-/

namespace Scaffold.Template

/-- When an expression is evaluated. -/
inductive Stage where
  | compiling
  /-- The template of this name is being rendered. -/
  | running (template : String)

structure Frame where
  stage : Stage
  /-- What names stand for, in the one form that they are compared in; nothing was put into an empty
  slot yet. -/
  slots : List (String × Option Handle)

structure Scope extends Frame where
  memory : Memory

namespace Frame

def slot? (fr : Frame) (name : String) : Option Handle :=
  (fr.slots.lookup (Text.compose name)).join

def put (fr : Frame) (name : String) (h? : Option Handle) : Frame :=
  { fr with slots := (Text.compose name, h?) :: fr.slots }

@[simp] theorem slot?_put_self (fr : Frame) (name : String) (h? : Option Handle) :
    (fr.put name h?).slot? name = h? := by
  simp [slot?, put]

theorem slot?_put_of_ne (fr : Frame) (name other : String) (h? : Option Handle)
    (h : Text.compose other ≠ Text.compose name) :
    (fr.put name h?).slot? other = fr.slot? other := by
  have : (Text.compose other == Text.compose name) = false := by simpa using h
  simp [slot?, put, List.lookup_cons, this]

end Frame

/-- The scope of constants. -/
def Scope.compiling : Scope := ⟨⟨.compiling, []⟩, .empty⟩

/-- An evaluation gives something or comes to a trouble. Either way there is a scope after it: what
the memory holds by then stays. -/
abbrev Eval (α : Type) := EStateM Trouble Scope α

instance : MonadLift (Except Trouble) Eval where
  monadLift
    | .ok a => pure a
    | .error why => throw why

namespace Eval

def value (h : Handle) : Eval Value := do return (← get).memory.value h

def truthy (h : Handle) : Eval Bool := do return (← get).memory.truthy h

def look (f : Memory → Except Trouble Handle) : Eval Handle := do f (← get).memory

def change (f : Memory → CallResult) : Eval Handle := do
  let sc ← get
  let (h, m) ← f sc.memory
  set { sc with memory := m }
  return h

/-- A value without shared parts. -/
def plain (x : Value) : Eval Handle := return .plain x

/-- A constant: a new value every time. A double without a finite value cannot be written down for
a running template. -/
def constant (x : Value) : Eval Handle := do
  match (← get).stage with
  | .running _ => if x.hasInfinity then throw .endlessConstant
  | .compiling => pure ()
  change fun m => .ok (m.keep x)

/-- The trouble with what has no value before its template runs. -/
def notConstant : Trouble := .typeMismatch

def name (s : String) : Eval Handle := do
  let sc ← get
  match sc.stage with
  | .compiling => throw notConstant
  | .running _ => return (sc.slot? s).getD (.plain (.absent (.name s)))

/-- An inline condition is false and has no other branch. -/
def noBranch (line : Nat) : Eval Handle := do
  match (← get).stage with
  | .compiling => throw notConstant
  | .running template => plain (.absent (.branch line template))

def minus : Value → Except Trouble Value
  | .bool b => .ok (.int (if b then -1 else 0))
  | .int n => .ok (.int (-n))
  | .float x => .ok (.float x.negate)
  | .absent why => .error (.undefined why.message)
  | _ => .error .typeMismatch

def compareBy (c : Comparison) (x y : Value) : Except Trouble Bool :=
  match c with
  | .same => .ok (x.same y)
  | .differs => .ok (!x.same y)
  | .less => x.compare .less y
  | .lessOrSame => x.compare .lessOrSame y
  | .greater => x.compare .greater y
  | .greaterOrSame => x.compare .greaterOrSame y

/-! ## Calls -/

/-- Words of which none can stand in front of the equals sign of an argument as a name. -/
def reservedWords : List String :=
  ["False", "None", "True", "and", "as", "assert", "async", "await", "break", "class", "continue",
    "def", "del", "elif", "else", "except", "finally", "for", "from", "global", "if", "import",
    "in", "is", "lambda", "nonlocal", "not", "or", "pass", "raise", "return", "try", "while",
    "with", "yield"]

/-- The keywords of a call are taken just as they are if one of them is a reserved word. -/
def hasReserved (keys : List String) : Bool := keys.any reservedWords.contains

/-- The keyword that an argument is given with: in the form in which names are compared, unless
keywords are taken as they are. -/
def keyword (stage : Stage) (keys : List String) (key : String) : String :=
  match stage with
  | .compiling => key
  | .running _ => if hasReserved keys then key else Text.compose key

/-- Arguments by place and by keyword; of two with the same keyword the last one counts. -/
def arguments (stage : Stage) (args : List (Option String × Handle)) : Arguments :=
  let named := args.filterMap fun (key?, h) => key?.map fun key => (key, h)
  ⟨args.filterMap fun (key?, h) => if key?.isNone then some h else none,
    named.foldl (fun options (key, h) =>
      putField (keyword stage (named.map (·.1)) key) h options) []⟩

/-- Keywords that no call passes on. -/
def droppedKeywords : List String := ["_block_vars", "_loop_vars"]

/-- Keywords that no call can be given. -/
def takenKeywords : List String := ["_Context__self", "_Context__obj"]

/-- Applies a function that sees the arguments as they are now. -/
def applyTo (f : List Value → List (String × Value) → Except Trouble Value) (args : Arguments) :
    Eval Handle :=
  look fun m =>
    let options := args.options.map fun (key, h) => (key, m.value h)
    (f (args.values.map m.value) options).map Handle.plain

def call (f : Handle) (args : Arguments) : Eval Handle := do
  if args.options.any fun o => takenKeywords.contains o.1 then throw .typeMismatch
  let args : Arguments :=
    ⟨args.values, args.options.filter fun o => !droppedKeywords.contains o.1⟩
  match (← get).stage, f with
  | .compiling, _ => throw notConstant
  | .running _, .plain (.helper h) => applyTo h.apply args
  | .running _, .method owner name _ => change fun m => m.callMethod owner name args
  | .running _, .plain (.absent why) => throw (.undefined why.message)
  | .running _, _ => throw .typeMismatch

/-- Applies a filter. One that does not exist takes no keywords. -/
def filter (name : String) (h : Handle) (args : Arguments) : Eval Handle :=
  match Filter.ofName? name with
  | some f => do applyTo (f.apply (← value h)) args
  | none => throw (if args.options.isEmpty then .unknownFilter name else .typeMismatch)

end Eval

/-! ## Expressions -/

mutual

def Expr.eval : Expr → Eval Handle
  | .constant x => Eval.constant x
  | .name s => Eval.name s
  | .list items => do
    let hs ← evalItems items
    Eval.change fun m => .ok (m.add (.list hs))
  | .tuple items => do
    let hs ← evalItems items
    Eval.change fun m => .ok (m.add (.tuple hs))
  | .member e s => do
    let h ← e.eval
    Eval.look fun m => m.member h s
  | .item e key => do
    let h ← e.eval
    let k ← key.eval
    Eval.look fun m => m.item h k
  | .call f args => do
    let f ← f.eval
    let args ← evalArguments args
    Eval.call f (Eval.arguments (← get).stage args)
  | .filter e s args => do
    let h ← e.eval
    let args ← evalArguments args
    Eval.filter s h (Eval.arguments (← get).stage args)
  | .minus e => do
    let x ← Eval.value (← e.eval)
    Eval.plain (← Eval.minus x)
  | .not e => do
    let b ← Eval.truthy (← e.eval)
    Eval.plain (.bool !b)
  | .and a b => do
    let h ← a.eval
    if ← Eval.truthy h then b.eval else return h
  | .or a b => do
    let h ← a.eval
    if ← Eval.truthy h then return h else b.eval
  | .compare e rest => do
    let h ← e.eval
    let b ← evalChain h rest
    Eval.plain (.bool b)
  | .ifElse line test yes no => do
    let t ← test.eval
    if ← Eval.truthy t then yes.eval else evalElse line no

def evalItems : List Expr → Eval (List Handle)
  | [] => return []
  | e :: es => do
    let h ← e.eval
    let hs ← evalItems es
    return h :: hs

def evalArguments : List (Option String × Expr) → Eval (List (Option String × Handle))
  | [] => return []
  | (key, e) :: es => do
    let h ← e.eval
    let hs ← evalArguments es
    return (key, h) :: hs

/-- A chain of comparisons after a value; it ends at the first false one. -/
def evalChain (h : Handle) : List (Comparison × Expr) → Eval Bool
  | [] => return true
  | (c, e) :: rest => do
    let k ← e.eval
    let b ← Eval.compareBy c (← Eval.value h) (← Eval.value k)
    if b then evalChain k rest else return false

def evalElse (line : Nat) : Option Expr → Eval Handle
  | none => Eval.noBranch line
  | some e => e.eval

end

end Scaffold.Template
