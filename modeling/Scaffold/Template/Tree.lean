import Scaffold.Template.Flaws
import Scaffold.Template.Slot

/-!
# Template trees

A compiled template: its nodes with constants folded in, and the slots of its names. `Tree.ofSource`
makes it from a source, or says what is wrong with the source. Of the language only a part is read:
text, comments, raw text, printed expressions, assignments and conditions. A source that uses more
of it, a loop or a macro say, counts as malformed.
-/

namespace Scaffold.Template

namespace Node

/-- In a run of printed nodes all constants are written before anything else of it is looked at. -/
def checkRun : List Node → Except Flaw Unit
  | .output e :: ns => do
    e.checkHeight Expr.constantHeightLimit
    if e.constant?.any Value.hasLongInteger then throw .longInteger
    checkRun ns
  | .text _ :: ns | .shown _ :: ns => checkRun ns
  | _ => .ok ()

/-- The expression with its constants folded in, if that has no flaw. -/
def foldExpr (soft : Bool) (e : Expr) : Except Flaw Expr := do
  e.checkHeight Expr.heightLimit
  e.fold.checkParts soft
  return e.fold

mutual

/-- The node with constants folded in; `soft` if it stands under a condition. -/
def fold (soft : Bool) : Node → Except Flaw Node
  | .text s => .ok (.text s)
  | .shown x => .ok (.shown x)
  | .output e => match e.constant? with
    | some x => .ok (.shown x)
    | none => (foldExpr soft e).map .output
  | .assign s e => (foldExpr soft e).map (.assign s)
  | .branch arms otherwise => do
    let arms ← foldArms arms
    let otherwise ← foldNodes true false otherwise
    return .branch arms otherwise

def foldArms : List (Expr × List Node) → Except Flaw (List (Expr × List Node))
  | [] => .ok []
  | (test, nodes) :: arms => do
    let test ← foldExpr true test
    let nodes ← foldNodes true false nodes
    let arms ← foldArms arms
    return (test, nodes) :: arms

/-- The nodes with constants folded in; they may follow on a run of printed nodes. -/
def foldNodes (soft inRun : Bool) : List Node → Except Flaw (List Node)
  | [] => .ok []
  | n :: ns => do
    if !inRun then checkRun (n :: ns)
    let m ← fold soft n
    let ms ← foldNodes soft n.isPrinted ns
    return m :: ms

end

end Node

/-! ## Templates -/

/-- A compiled template with the name that it is compiled under. -/
structure Tree where
  name : String
  slots : List Slot
  nodes : List Node

namespace Tree

/-- The tree of a source. -/
def ofSource (name : String) (source : List Char) : Except Flaw Tree := do
  let nodes ← Node.read source
  let folded ← Node.foldNodes false false nodes
  Node.checkFolded name (readsItself nodes) folded
  return ⟨name, Slot.ofNodes nodes, folded⟩

end Tree

end Scaffold.Template
