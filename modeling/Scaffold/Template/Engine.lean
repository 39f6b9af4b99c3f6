import Scaffold.Fault
import Scaffold.Template.Value

/-!
# Template engines

What is asked of an engine: it compiles a source into a tree, and renders a tree with data. A tree
may read other sources of its library while it is rendered, and all renderings of one library share
a state, which may be anything that they can change: what one of them puts there the next one finds,
also if it stopped half way. The engine that is used is `Template.engine`.
-/

namespace Scaffold.Template

/-- Render data: values by name. -/
abbrev Data := List (String × Value)

def Data.ofFields (fields : List (String × Json)) : Data := Value.ofFields fields

/-- The sources of a library by name. There may be none, or one that cannot be read. -/
abbrev Sources := String → Except Fault (Option (List Char))

structure Engine where
  Tree : Type
  State : Type
  /-- The state of a library in which nothing was rendered yet. -/
  fresh : State
  /-- The tree of the source with the given name. -/
  compile : String → List Char → Except Flaw Tree
  /-- What a tree gives, and the state after it. -/
  render : Tree → Data → Sources → State → Except Trouble Content × State

end Scaffold.Template
