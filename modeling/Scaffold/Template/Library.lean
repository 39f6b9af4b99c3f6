import Scaffold.Bundled
import Scaffold.Store.Ops
import Scaffold.Template.Engine

/-!
# Template libraries

A library is a root directory, the templates that were compiled from it, and the state that their
renderings share. A path is compiled when it is first rendered and kept under exactly the text it
was asked for, whatever happens to the file afterwards, until the library forgets it. The state is
never forgotten.
-/

namespace Scaffold.Template

structure Library (E : Engine) where
  root : Path
  kept : List (String × E.Tree)
  state : E.State

namespace Library

variable {E : Engine}

/-- A library that has compiled nothing yet; without a root it holds the bundled templates. -/
def new (root : Option Path) : Library E := ⟨root.getD Bundled.root, [], E.fresh⟩

def locate (lib : Library E) (path : String) : Path := lib.root.child path

def holds (lib : Library E) (s : Store) (path : String) : Except Fault Bool :=
  s.isFile? (lib.locate path)

/-- The names of a template path. A path that goes outwards names no template. -/
def templateNames? (path : String) : Option (List String) :=
  let names := (Path.ofString path).names
  if names.contains ".." then none else some names

/-- The file that a template is loaded from, if it is one; a first slash does not leave the root. -/
def source? (lib : Library E) (s : Store) (path : String) : Option Path := do
  let names ← templateNames? path
  let file : Path := ⟨lib.root.anchor, lib.root.names ++ names⟩
  match s.isFile? file with
  | .ok true => some file
  | _ => none

def sources (lib : Library E) (s : Store) : Sources := fun path =>
  match lib.source? s path with
  | none => .ok none
  | some file => (s.readText file).map some

def load (lib : Library E) (s : Store) (path : String) : Except Fault E.Tree := do
  let missing := Fault.templateMissing path (lib.locate path).text
  if !(← lib.holds s path) then .error missing
  else match ← lib.sources s path with
    | none => .error missing
    | some source => (E.compile path source).mapError (.unusableTemplate path)

/-- The compiled template at a path, kept from then on. -/
def get (lib : Library E) (s : Store) (path : String) : Except Fault E.Tree × Library E :=
  match lib.kept.lookup path with
  | some tree => (.ok tree, lib)
  | none => match lib.load s path with
    | .ok tree => (.ok tree, { lib with kept := (path, tree) :: lib.kept })
    | .error f => (.error f, lib)

def renderTree (lib : Library E) (s : Store) (tree : E.Tree) (data : Data) :
    Except Fault Content × Library E :=
  let (result, state) := E.render tree data (lib.sources s) lib.state
  (result.mapError .rendering, { lib with state })

def render (lib : Library E) (s : Store) (path : String) (data : Data) :
    Except Fault Content × Library E :=
  match lib.get s path with
  | (.ok tree, lib) => lib.renderTree s tree data
  | (.error f, lib) => (.error f, lib)

/-- The text of a file below the root, with every line end as a line feed. -/
def readStatic (lib : Library E) (s : Store) (path : String) : Except Fault String := do
  let file := lib.locate path
  if ← s.isFile? file then (s.readText file).map String.ofList
  else .error (.staticMissing path file.text)

def forget (lib : Library E) : Library E := { lib with kept := [] }

/-- The paths of the compiled templates in order. -/
def keptPaths (lib : Library E) : List String :=
  (lib.kept.map (·.1)).mergeSort fun a b => a ≤ b

end Library

end Scaffold.Template
