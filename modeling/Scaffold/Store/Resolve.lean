import Scaffold.Path.Basic
import Scaffold.Store.Basic

/-!
# Finding a place

A path is walked name by name from the root. Every name but the last is followed through symbolic
links, `..` goes one place outwards, and a walk that meets more than forty links fails. What becomes
of the last name depends on the aim of the walk. `place` says where a path leads; `probe` is the
question whether something is there.
-/

namespace Scaffold

inductive Refusal where
  | noEntry
  | busy
  | exists
  | notDirectory
  | isDirectory
  | nameTooLong
  | notEmpty
  | tooManyLinks
  deriving DecidableEq, Repr

namespace Refusal

def code : Refusal → Nat
  | noEntry => 2
  | busy => 16
  | .exists => 17
  | notDirectory => 20
  | isDirectory => 21
  | nameTooLong => 36
  | notEmpty => 39
  | tooManyLinks => 40

def text : Refusal → String
  | noEntry => "No such file or directory"
  | busy => "Device or resource busy"
  | .exists => "File exists"
  | notDirectory => "Not a directory"
  | isDirectory => "Is a directory"
  | nameTooLong => "File name too long"
  | notEmpty => "Directory not empty"
  | tooManyLinks => "Too many levels of symbolic links"

/-- A question about a path takes these for "there is nothing". -/
def meansAbsent : Refusal → Bool
  | noEntry | notDirectory | tooManyLinks => true
  | _ => false

end Refusal

inductive Place where
  | entry (loc : Loc)
  /-- Nothing is there, in an existing directory. -/
  | vacant (dir : Loc) (name : String)
  | refused (why : Refusal)
  deriving DecidableEq, Repr

inductive Aim where
  /-- What stands at the path itself, be it a link. -/
  | itself
  /-- What the path leads to through all links. -/
  | target
  /-- The file that the path leads to, which is created if it is not there. -/
  | creation
  deriving DecidableEq, Repr

namespace Store

/-- The longest name in bytes. -/
def nameLimit : Nat := 255

/-- The longest path in bytes. -/
def pathLimit : Nat := 4095

/-- The most links that one walk follows. -/
def linkLimit : Nat := 40

/-- A stretch of a walk: it ends, or it meets a link with names still to come. -/
inductive Stretch where
  | ended (place : Place)
  | atLink (dir : Loc) (target : String) (rest : List String)

/-- Walks names from a place on, up to the next link that has to be followed. The name `.` and the
empty name after a last slash stay where they are; no file is created under a name with a slash
after it. -/
def advance (s : Store) (aim : Aim) (here : Loc) : List String → Stretch
  | [] => .ended (.entry here)
  | name :: rest =>
    if !s.isDirectoryAt here then .ended (.refused .notDirectory)
    else if name = "." ∨ name = "" then advance s aim here rest
    else if name = ".." then advance s aim here.tail rest
    else if aim = .creation ∧ rest ≠ [] ∧ rest.all (· = "") then .ended (.refused .isDirectory)
    else if nameLimit < name.utf8ByteSize then .ended (.refused .nameTooLong)
    else match s.at? (name :: here) with
      | none =>
        if rest.all (· = "") then .ended (.vacant here name)
        else .ended (.refused .noEntry)
      | some (.link target) =>
        if rest = [] ∧ aim = .itself then .ended (.entry (name :: here))
        else .atLink here target rest
      | some _ => advance s aim (name :: here) rest

/-- The names in the target of a link; a last slash leaves an empty name at the end. -/
def targetNames (target : String) : List String :=
  let segments := target.toList.splitOn '/'
  let inner := segments.dropLast.filter (· ≠ [])
  (inner ++ segments.getLast?.toList).map String.ofList

/-- Walks names from a place on, through at most `links` links. -/
def walk (s : Store) (aim : Aim) (here : Loc) (names : List String) : Nat → Place
  | 0 => match advance s aim here names with
    | .ended place => place
    | .atLink .. => .refused .tooManyLinks
  | links + 1 => match advance s aim here names with
    | .ended place => place
    | .atLink dir target rest =>
      let origin := if target.toList.head? = some '/' then [] else dir
      walk s aim origin (targetNames target ++ rest) links

def place (s : Store) (aim : Aim) (p : Path) : Place :=
  if pathLimit < p.text.utf8ByteSize then .refused .nameTooLong
  else walk s aim [] p.names linkLimit

/-- The place and entry that a path leads to. A path that cannot lead anywhere leads to nothing, but
a name that is too long is refused. -/
def probe (s : Store) (aim : Aim) (p : Path) : Except Refusal (Option (Loc × Entry)) :=
  if p.hasNul then .ok none
  else match s.place aim p with
    | .entry loc => .ok ((s.at? loc).map (loc, ·))
    | .vacant .. => .ok none
    | .refused why => if why.meansAbsent then .ok none else .error why

end Store

end Scaffold
