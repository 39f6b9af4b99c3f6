import Scaffold.Template.Fold
import Scaffold.Template.Node

/-!
# Flaws of templates that can be read

What can still be wrong with a template once its constants are folded in: filters that do not exist,
integers that are too long, keywords that no call can have, and too many brackets or conditions
inside each other. A part that folding took away has no flaws. Each check finds the first flaw in
the order in which an expression is written out.
-/

namespace Scaffold.Template

namespace Value

mutual

/-- How deep the brackets of lists and tuples stand inside each other. -/
def depth : Value → Nat
  | .list items | .tuple items => itemsDepth items + 1
  | _ => 0

def itemsDepth : List Value → Nat
  | [] => 0
  | x :: xs => max (depth x) (itemsDepth xs)

end

end Value

namespace Expr

/-- Taller expressions cannot be compiled: each level takes three of a thousand frames. -/
def heightLimit : Nat := 320

/-- Taller expressions have no value before the template runs: each level takes two frames. -/
def constantHeightLimit : Nat := 488

def checkHeight (limit : Nat) (e : Expr) : Except Flaw Unit :=
  if limit < e.height then .error .tooDeep else .ok ()

mutual

/-- Every filter exists and no integer is too long. A filter under a condition need not exist. -/
def checkParts (soft : Bool) : Expr → Except Flaw Unit
  | .constant x => if x.hasLongInteger then .error .longInteger else .ok ()
  | .name _ => .ok ()
  | .list items | .tuple items => checkItems soft items
  | .member e _ | .minus e | .not e => checkParts soft e
  | .item e key => do
    checkParts soft e
    checkParts soft key
  | .call f args => do
    checkParts soft f
    checkArguments soft args
  | .filter e s args => do
    if (Filter.ofName? s).isNone && !soft then throw .malformed
    checkParts soft e
    checkArguments soft args
  | .and a b | .or a b => do
    checkParts soft a
    checkParts soft b
  | .compare e rest => do
    checkParts soft e
    checkRest soft rest
  | .ifElse _ test yes no => do
    checkParts true yes
    checkParts true test
    checkElse no

def checkItems (soft : Bool) : List Expr → Except Flaw Unit
  | [] => .ok ()
  | e :: es => do
    checkParts soft e
    checkItems soft es

def checkArguments (soft : Bool) : List (Option String × Expr) → Except Flaw Unit
  | [] => .ok ()
  | (_, e) :: es => do
    checkParts soft e
    checkArguments soft es

def checkRest (soft : Bool) : List (Comparison × Expr) → Except Flaw Unit
  | [] => .ok ()
  | (_, e) :: es => do
    checkParts soft e
    checkRest soft es

def checkElse : Option Expr → Except Flaw Unit
  | none => .ok ()
  | some e => checkParts true e

end

/-! ## Brackets -/

mutual

/-- How deep brackets stand inside each other when an expression is written out in full. A name is
written with the check that it is there; the template itself needs none. -/
def depth (own : Bool) : Expr → Nat
  | .constant x => x.depth
  | .name s => if own && s = selfName then 0 else 2
  | .list items | .tuple items => itemsDepth own items + 1
  | .member e _ | .minus e | .not e => depth own e + 1
  | .item e key => max (depth own e) (depth own key) + 1
  | .call e args | .filter e _ args =>
    let keywords := if Eval.hasReserved (args.filterMap (·.1)) then 1 else 0
    max (depth own e) (argumentsDepth own keywords args) + 1
  | .and a b | .or a b => max (depth own a) (depth own b) + 1
  | .compare e rest => max (depth own e) (restDepth own rest) + 1
  | .ifElse _ test yes no => max (max (depth own yes) (depth own test)) (elseDepth own no) + 1

def itemsDepth (own : Bool) : List Expr → Nat
  | [] => 0
  | e :: es => max (depth own e) (itemsDepth own es)

/-- What keywords give may stand in brackets of its own. -/
def argumentsDepth (own : Bool) (keywords : Nat) : List (Option String × Expr) → Nat
  | [] => 0
  | (none, e) :: es => max (depth own e) (argumentsDepth own keywords es)
  | (some _, e) :: es => max (depth own e + keywords) (argumentsDepth own keywords es)

def restDepth (own : Bool) : List (Comparison × Expr) → Nat
  | [] => 0
  | (_, e) :: es => max (depth own e) (restDepth own es)

def elseDepth (own : Bool) : Option Expr → Nat
  | none => 1
  | some e => depth own e

end

mutual

/-- A part of the expression passes a test. -/
def anyPart (test : Expr → Bool) : Expr → Bool
  | e@(.constant _) | e@(.name _) => test e
  | e@(.list items) | e@(.tuple items) => test e || anyItem test items
  | e@(.member x _) | e@(.minus x) | e@(.not x) => test e || anyPart test x
  | e@(.item x key) => test e || anyPart test x || anyPart test key
  | e@(.call x args) | e@(.filter x _ args) => test e || anyPart test x || anyArgument test args
  | e@(.and a b) | e@(.or a b) => test e || anyPart test a || anyPart test b
  | e@(.compare x rest) => test e || anyPart test x || anyCompared test rest
  | e@(.ifElse _ t yes no) => test e || anyPart test t || anyPart test yes || anyElse test no

def anyItem (test : Expr → Bool) : List Expr → Bool
  | [] => false
  | e :: es => anyPart test e || anyItem test es

def anyArgument (test : Expr → Bool) : List (Option String × Expr) → Bool
  | [] => false
  | (_, e) :: es => anyPart test e || anyArgument test es

def anyCompared (test : Expr → Bool) : List (Comparison × Expr) → Bool
  | [] => false
  | (_, e) :: es => anyPart test e || anyCompared test es

def anyElse (test : Expr → Bool) : Option Expr → Bool
  | none => false
  | some e => anyPart test e

end

/-- The keyword that no argument can have. -/
def forbiddenKeyword : String := "__debug__"

/-- The keywords of a call cannot stand together; those that are taken as they are always can. -/
def clash (keys : List String) : Bool :=
  let forms := keys.map Text.compose
  !Eval.hasReserved keys
    && (forms.eraseDups.length ≠ forms.length || forms.contains forbiddenKeyword)

def hasBadKeyword : Expr → Bool
  | .call _ args | .filter _ _ args => clash (args.filterMap (·.1))
  | _ => false

/-- An inline condition that says nothing for the case that it is false. -/
def isOneSided : Expr → Bool
  | .ifElse _ _ _ none => true
  | _ => false

end Expr

/-! ## Nodes -/

mutual

def Node.anyPart (test : Expr → Bool) : Node → Bool
  | .text _ | .shown _ => false
  | .output e | .assign _ e => e.anyPart test
  | .branch arms otherwise => anyArmPart test arms || anyNodePart test otherwise

def anyArmPart (test : Expr → Bool) : List (Expr × List Node) → Bool
  | [] => false
  | (e, nodes) :: arms => e.anyPart test || anyNodePart test nodes || anyArmPart test arms

def anyNodePart (test : Expr → Bool) : List Node → Bool
  | [] => false
  | n :: ns => n.anyPart test || anyNodePart test ns

end

namespace Node

/-- Brackets stand at most this deep inside each other. -/
def bracketLimit : Nat := 200

/-- Conditions stand less deep inside each other. -/
def conditionLimit : Nat := 99

def checkBrackets (depth : Nat) : Except Flaw Unit :=
  if bracketLimit < depth then .error .deepBrackets else .ok ()

mutual

/-- Nothing in the node stands too deep; it is itself inside some conditions already. -/
def checkDepth (own : Bool) (conditions : Nat) : Node → Except Flaw Unit
  | .text _ | .shown _ => .ok ()
  | .output e => checkBrackets (e.depth own + 1)
  | .assign _ e => checkBrackets (e.depth own)
  | .branch arms otherwise => do
    checkArmsDepth own (conditions + 1) arms
    checkNodesDepth own (conditions + 1) otherwise

def checkArmsDepth (own : Bool) (conditions : Nat) : List (Expr × List Node) → Except Flaw Unit
  | [] => .ok ()
  | (test, nodes) :: arms => do
    checkBrackets (test.depth own)
    if conditionLimit ≤ conditions then throw .deepConditions
    checkNodesDepth own conditions nodes
    checkArmsDepth own conditions arms

def checkNodesDepth (own : Bool) (conditions : Nat) : List Node → Except Flaw Unit
  | [] => .ok ()
  | n :: ns => do
    checkDepth own conditions n
    checkNodesDepth own conditions ns

end

/-- The name of a template can stand inside double quotes in a message. -/
def isQuotable (name : String) : Bool := !(name.toList.any fun c => c = '\'' || c = '"')

/-- Folded nodes of the template of this name have no flaw. -/
def checkFolded (name : String) (own : Bool) (nodes : List Node) : Except Flaw Unit := do
  checkNodesDepth own 0 nodes
  if !isQuotable name && anyNodePart Expr.isOneSided nodes then throw .quotedName
  if anyNodePart Expr.hasBadKeyword nodes then throw .badKeyword

end Node

end Scaffold.Template
