import Scaffold.Template.Tree

/-!
# Rendering

A tree is rendered with data: its slots are filled, and then its nodes give their texts one after
the other. The memory goes through all renderings of a library.
-/

namespace Scaffold.Template

mutual

def Node.render : Node → Eval Content
  | .text s => return s
  | .shown x => return x.content
  | .output e => do
    let x ← Eval.value (← e.eval)
    if x.hasLongInteger then throw .longInteger
    return x.content
  | .assign s e => do
    let h ← e.eval
    modify fun sc => { sc with toFrame := sc.put s (some h) }
    return ""
  | .branch arms otherwise => renderArms (renderNodes otherwise) arms

/-- The text of the first arm whose test is true, or else what there is otherwise. -/
def renderArms (otherwise : Eval Content) : List (Expr × List Node) → Eval Content
  | [] => otherwise
  | (test, nodes) :: arms => do
    let h ← test.eval
    if ← Eval.truthy h then renderNodes nodes else renderArms otherwise arms

def renderNodes : List Node → Eval Content
  | [] => return ""
  | n :: ns => do
    let first ← n.render
    let rest ← renderNodes ns
    return first ++ rest

end

/-- Renders a template with data. No datum can take the place of the template itself. -/
def Tree.render (t : Tree) (data : Data) (m : Memory) : Except Trouble Content × Memory :=
  if (data.lookup selfName).isSome then (.error .typeMismatch, m)
  else match renderNodes t.nodes (.start t.name t.slots data m) with
    | .ok text sc => (.ok text, sc.memory)
    | .error why sc => (.error why, sc.memory)

/-- The engine that is used. It reads that part of its template language which has text, raw text
and comments, printed values, assignments and conditions, with the expressions of `Grammar` in them.
A source with anything else in it is malformed here, what values could do besides is
`Trouble.beyond`, and no other source is ever read. -/
def engine : Engine where
  Tree := Tree
  State := Memory
  fresh := .initial
  compile := Tree.ofSource
  render t data _ m := t.render data m

end Scaffold.Template
