import Scaffold.Template.Engine
import Scaffold.Template.Eval
import Scaffold.Template.Node

/-!
# Slots

Where the names of a template get their first value from. A name that is assigned outside all
conditions before anything else happens to it starts empty; every other name starts with what the
render data or the helpers give it. The name `self` is the template itself, unless it is assigned
before it is read. The dictionary of all helpers stands in the memory from the first rendering on:
it is one for all templates of a library, and a template can change it.
-/

namespace Scaffold.Template

/-! ## Uses of names -/

/-- A place where a name stands. -/
inductive Use where
  | read (name : String)
  /-- The target of an assignment, `inside` a condition or not. -/
  | assigned (name : String) (inside : Bool)
  deriving DecidableEq, Repr

def Use.name : Use → String
  | read s | assigned s _ => s

mutual

/-- The uses of names in a node, in order; a target comes before or after what is assigned to it. -/
def Node.uses (targetFirst inside : Bool) : Node → List Use
  | .text _ | .shown _ => []
  | .output e => e.names.map .read
  | .assign s e =>
    let target : Use := .assigned s inside
    let reads := e.names.map Use.read
    if targetFirst then target :: reads else reads ++ [target]
  | .branch arms otherwise => armUses targetFirst arms ++ nodeUses targetFirst true otherwise

def armUses (targetFirst : Bool) : List (Expr × List Node) → List Use
  | [] => []
  | (test, nodes) :: arms =>
    test.names.map .read ++ nodeUses targetFirst true nodes ++ armUses targetFirst arms

def nodeUses (targetFirst inside : Bool) : List Node → List Use
  | [] => []
  | n :: ns => n.uses targetFirst inside ++ nodeUses targetFirst inside ns

end

/-- The template reads itself before it gives the name away; here a target comes first. -/
def readsItself (nodes : List Node) : Bool :=
  match (nodeUses true false nodes).find? fun u => u.name = selfName with
  | some (.read _) => true
  | _ => false

/-! ## First values -/

/-- Where the first value of a name comes from. -/
inductive Origin where
  | template
  | data
  | nowhere
  deriving DecidableEq, Repr

structure Slot where
  name : String
  origin : Origin
  deriving DecidableEq, Repr

/-- Where a name that is first used in this way gets its first value from. -/
def Use.origin : Use → Origin
  | read _ | assigned _ true => .data
  | assigned _ false => .nowhere

def firstUses : List Use → List Use :=
  List.foldl (fun found u => if found.any fun v => v.name = u.name then found else found ++ [u]) []

/-- The slots of a template in the order in which they are filled. -/
def Slot.ofNodes (nodes : List Node) : List Slot :=
  let own := readsItself nodes
  let uses := (firstUses (nodeUses false false nodes)).filter fun u => !(own && u.name = selfName)
  let slots := uses.map fun u => Slot.mk u.name u.origin
  let (empty, filled) := slots.partition fun slot => slot.origin = .nowhere
  (if own then [⟨selfName, .template⟩] else []) ++ filled ++ empty

def helpersPlace : Nat := 0

def Memory.initial : Memory :=
  ⟨#[.dict (Helper.all.map fun h => (h.name, .plain (.helper h)))]⟩

/-- What a name stands for in every template. -/
def builtin? (s : String) : Option Handle :=
  if s = "helpers" then some (.kept helpersPlace)
  else ((Helper.ofName? s).filter fun h => !h.isOperator).map fun h => .plain (.helper h)

namespace Scope

def fill (template : String) (data : Data) (sc : Scope) (slot : Slot) : Scope :=
  match slot.origin with
  | .template => { sc with toFrame := sc.put slot.name (some (.plain (.template template))) }
  | .nowhere => { sc with toFrame := sc.put slot.name none }
  | .data => match data.lookup slot.name with
    | some x =>
      let (h, m) := sc.memory.keep x
      ⟨sc.put slot.name (some h), m⟩
    | none => { sc with toFrame := sc.put slot.name (builtin? slot.name) }

def start (template : String) (slots : List Slot) (data : Data) (m : Memory) : Scope :=
  slots.foldl (fill template data) ⟨⟨.running template, []⟩, m⟩

end Scope

end Scaffold.Template
