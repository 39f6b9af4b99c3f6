import Scaffold.Blueprint.Derived
import Scaffold.Json.Printer
import Scaffold.Store.Ops

/-!
# Stored blueprints

A blueprint is stored as the JSON object of its choices and read back from it.
-/

namespace Scaffold.Blueprint

def fileText (b : Blueprint) : String :=
  (Json.obj (b.entries.map fun (key, value) => (key, .str value))).pretty

/-- Stores a blueprint, with the directories above the file. -/
def save (b : Blueprint) (s : Store) (p : Path) : Except Fault Unit × Store :=
  s.writeBelow p b.fileText

/-- Reads a blueprint from the file at a path, which is reported just as it was given. -/
def load (s : Store) (path : String) : Except Fault Blueprint := do
  let source ← s.readText (Path.ofString path)
  match Choices.ofText source with
  | .error issues => .error (.rejected (.malformedFile path issues))
  | .ok c => (accept c).mapError .rejected

end Scaffold.Blueprint
