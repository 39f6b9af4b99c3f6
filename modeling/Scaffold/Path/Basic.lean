/-!
# Paths

A path is its beginning and its names. Reading drops empty segments and `.` segments and keeps `..`;
exactly two slashes at the start are kept apart from one. No operation looks at a disk.
-/

namespace Scaffold

/-- How a path begins. -/
inductive Anchor where
  | relative
  | root
  | doubleRoot
  deriving DecidableEq, Repr

structure Path where
  anchor : Anchor
  names : List String
  deriving DecidableEq, Repr

namespace Path

/-- The beginning that the slashes at the start of a text stand for. -/
def anchorOf : List Char → Anchor
  | ['/', '/'] => .doubleRoot
  | '/' :: '/' :: c :: _ => if c = '/' then .root else .doubleRoot
  | '/' :: _ => .root
  | _ => .relative

def isName (segment : List Char) : Bool := segment ≠ [] ∧ segment ≠ ['.']

def ofChars (cs : List Char) : Path :=
  ⟨anchorOf cs, ((cs.splitOn '/').filter isName).map String.ofList⟩

def ofString (s : String) : Path := ofChars s.toList

def Anchor.text : Anchor → String
  | .relative => ""
  | .root => "/"
  | .doubleRoot => "//"

/-- The text of a path; one without anything in it is a single dot. -/
def text (p : Path) : String :=
  match p with
  | ⟨.relative, []⟩ => "."
  | ⟨anchor, names⟩ => Anchor.text anchor ++ "/".intercalate names

def isAnchored (p : Path) : Bool := p.anchor ≠ .relative

/-- The right path seen from the left one; an anchored right path stands for itself. -/
def join (p q : Path) : Path :=
  if q.isAnchored then q else ⟨p.anchor, p.names ++ q.names⟩

def child (p : Path) (s : String) : Path := p.join (ofString s)

/-- The path without its last name; a path without names is its own parent. -/
def parent (p : Path) : Path := ⟨p.anchor, p.names.dropLast⟩

/-- All proper prefixes of a list, the longest first. -/
def properPrefixes : List String → List (List String)
  | [] => []
  | name :: names => (properPrefixes names).map (name :: ·) ++ [[]]

/-- The paths above `p`, the nearest first. -/
def ancestors (p : Path) : List Path := (properPrefixes p.names).map (⟨p.anchor, ·⟩)

/-- A path with a NUL in it reaches no system. -/
def hasNul (p : Path) : Bool := p.names.any fun name => name.toList.contains '\x00'

end Path

end Scaffold
