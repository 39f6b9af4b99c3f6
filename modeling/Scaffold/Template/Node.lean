import Scaffold.Template.Grammar
import Scaffold.Template.Piece

/-!
# Nodes of a template

A template is a list of nodes: text, printed values, assignments and conditions. `Node.read` makes
them from the pieces of a source, piece by piece, so that what is wrong first is what it says.
-/

namespace Scaffold.Template

inductive Node where
  | text (s : String)
  /-- Prints a value that is known before the template runs. -/
  | shown (x : Value)
  | output (e : Expr)
  | assign (name : String) (e : Expr)
  /-- The first arm whose test is true counts, and `otherwise` if there is none. -/
  | branch (arms : List (Expr × List Node)) (otherwise : List Node)
  deriving Inhabited

def Node.isPrinted : Node → Bool
  | .text _ | .shown _ | .output _ => true
  | .assign _ _ | .branch _ _ => false

/-- A condition that is being read. Nodes and arms are kept last first. -/
structure OpenBranch where
  /-- The nodes before the condition. -/
  before : List Node
  arms : List (Expr × List Node)
  /-- The test of the arm that is being read; behind the last arm there is none. -/
  test? : Option Expr

namespace OpenBranch

/-- Goes on to the next part behind an arm with these nodes. -/
def next (b : OpenBranch) (test : Expr) (nodes : List Node) (test? : Option Expr) : OpenBranch :=
  ⟨b.before, (test, nodes.reverse) :: b.arms, test?⟩

/-- The finished condition; the part that is read has these nodes. -/
def close (b : OpenBranch) (nodes : List Node) : Node :=
  match b.test? with
  | some test => .branch (b.next test nodes none).arms.reverse []
  | none => .branch b.arms.reverse nodes.reverse

end OpenBranch

/-- Nodes under construction: the open conditions, innermost first, and the nodes of the innermost
part, last first. -/
structure Growth where
  stack : List OpenBranch
  nodes : List Node

namespace Growth

open Grammar

def start : Growth := ⟨[], []⟩

/-- The frames that an open condition takes of the room for expressions. -/
def branchRoom : Nat := 4

def room (g : Growth) : Except Flaw Nat := Grammar.take fullRoom (branchRoom * g.stack.length)

def add (g : Growth) (n : Node) : Growth := ⟨g.stack, n :: g.nodes⟩

/-- Takes an assignment in, from behind its first word. -/
def assign (g : Growth) : List Placed → Except Flaw Growth
  | ⟨_, .name s⟩ :: ts =>
    match Grammar.mark? .assign ts with
    | some ts => do
      if (Grammar.constant? s).isSome then throw .malformed
      let e ← Grammar.expression (← g.room) ts
      return g.add (.assign s e)
    | none => .error (trouble ts)
  | ⟨_, .flaw why⟩ :: _ => .error why
  | _ :: ts => .error (trouble ts)
  | [] => .error .malformed

/-- Takes an instruction in. Whether it may stand here is settled before the rest of it is read. -/
def instruct (g : Growth) : List Placed → Except Flaw Growth
  | ⟨_, .name "set"⟩ :: ts => g.assign ts
  | ⟨_, .name "if"⟩ :: ts => do
    let test ← Grammar.test (← g.room) ts
    return ⟨⟨g.nodes, [], some test⟩ :: g.stack, []⟩
  | ⟨_, .name "elif"⟩ :: ts => match g.stack with
    | b@⟨_, _, some t⟩ :: outer => do
      let test ← Grammar.test (← g.room) ts
      return ⟨b.next t g.nodes (some test) :: outer, []⟩
    | _ => .error .malformed
  | ⟨_, .name "else"⟩ :: ts => match g.stack with
    | b@⟨_, _, some t⟩ :: outer => do
      expectEnd ((Grammar.mark? .colon ts).getD ts)
      return ⟨b.next t g.nodes none :: outer, []⟩
    | _ => .error .malformed
  | ⟨_, .name "endif"⟩ :: ts => match g.stack with
    | b :: outer => do
      expectEnd ts
      return ⟨outer, b.close g.nodes :: b.before⟩
    | [] => .error .malformed
  | ts => .error (trouble ts)

def takeIn (g : Growth) : Piece → Except Flaw Growth
  | .text cs => .ok (g.add (.text (String.ofList cs)))
  | .output ts => do
    let e ← Grammar.expression (← g.room) ts
    return g.add (.output e)
  | .instruction ts => g.instruct ts
  | .broken => .error .malformed

def result (g : Growth) : Except Flaw (List Node) :=
  if g.stack.isEmpty then .ok g.nodes.reverse else .error .malformed

end Growth

def Node.read (source : List Char) : Except Flaw (List Node) := do
  let growth ← (Piece.cut source).foldlM Growth.takeIn Growth.start
  growth.result

end Scaffold.Template
