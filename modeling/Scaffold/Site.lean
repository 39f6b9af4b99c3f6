import Scaffold.Json.Printer
import Scaffold.Template.Library

/-!
# Building sites

A site is the root that a project is written under, with render data for templates that bring none.
All writing goes through a few commands; each records in a ledger what it created, a path only after
it is there and complete, and directories before what lies in them.
-/

namespace Scaffold

open Template

structure Site where
  root : Path
  defaults : Data

/-- What can be done on a site. Paths are seen from its root. -/
inductive Command where
  | writeFile (path : String) (content : Content)
  | createDirectory (path : String)
  /-- Renders a template into a file, with data of its own or the defaults. -/
  | renderTemplate (template path : String) (data : Option Data)
  | copyStatic (source path : String)
  /-- The value printed; texts with surrogates go into no value, but into a file's content. -/
  | writeJson (path : String) (value : Json)
  | pathExists (path : String)

inductive Answer where
  | wrote (path : Path)
  | present (b : Bool)
  deriving DecidableEq

/-- What commands act on: the disk, the templates, and the ledger of created paths. -/
structure Workshop (E : Engine) where
  store : Store
  library : Library E
  ledger : List String

variable {E : Engine}

namespace Workshop

def record (w : Workshop E) (p : Path) : Workshop E :=
  if w.ledger.contains p.text then w else { w with ledger := w.ledger ++ [p.text] }

/-- Makes sure of a directory and records it. -/
def createRecorded (w : Workshop E) (p : Path) : Except Fault Unit × Workshop E :=
  match w.store.makeDirs p with
  | (.ok (), s) => (.ok (), { w with store := s }.record p)
  | (.error f, s) => (.error f, { w with store := s })

/-- Makes sure of directories in their order, up to the first failure. -/
def createAll (w : Workshop E) : List Path → Except Fault Unit × Workshop E
  | [] => (.ok (), w)
  | p :: ps => match w.createRecorded p with
    | (.ok (), w) => w.createAll ps
    | (.error f, w) => (.error f, w)

end Workshop

namespace Site

def locate (site : Site) (path : String) : Path := site.root.child path

/-- Of the paths above one, nearest first, those that are missing: the search ends at the root, at a
path outside the root, and at the first one that is there. The outermost comes first. -/
def missingAmong (root : Path) (s : Store) : List Path → Except Fault (List Path)
  | [] => .ok []
  | p :: outer =>
    if p = root ∨ !p.ancestors.contains root then .ok []
    else do
      if ← s.exists? p then .ok []
      else
        let rest ← missingAmong root s outer
        .ok (rest ++ [p])

/-- The missing directories between the root and a path, the outermost first. -/
def missingAncestors (root : Path) (s : Store) (p : Path) : Except Fault (List Path) :=
  missingAmong root s p.ancestors

/-- Creates and records the missing directories above a path. -/
def ensureParents (site : Site) (w : Workshop E) (p : Path) : Except Fault Unit × Workshop E :=
  match missingAncestors site.root w.store p with
  | .error f => (.error f, w)
  | .ok missing => w.createAll missing

/-- Writes a file and records it after its missing directories. -/
def writeFile (site : Site) (w : Workshop E) (path : String) (content : Content) :
    Except Fault Path × Workshop E :=
  let p := site.locate path
  match site.ensureParents w p with
  | (.error f, w) => (.error f, w)
  | (.ok (), w) => match w.store.writeBelow p content with
    | (.error f, s) => (.error f, { w with store := s })
    | (.ok (), s) => (.ok p, { w with store := s }.record p)

/-- Creates a directory and records it after its missing parents. -/
def createDirectory (site : Site) (w : Workshop E) (path : String) :
    Except Fault Path × Workshop E :=
  let p := site.locate path
  match site.ensureParents w p with
  | (.error f, w) => (.error f, w)
  | (.ok (), w) => match w.createRecorded p with
    | (.ok (), w) => (.ok p, w)
    | (.error f, w) => (.error f, w)

/-- The content that a JSON file gets: the printed value and a line end. -/
def jsonContent (value : Json) : String := value.pretty ++ "\n"

def wrote (result : Except Fault Path × Workshop E) : Except Fault Answer × Workshop E :=
  (result.1.map .wrote, result.2)

def perform (site : Site) (w : Workshop E) : Command → Except Fault Answer × Workshop E
  | .writeFile path content => wrote (site.writeFile w path content)
  | .createDirectory path => wrote (site.createDirectory w path)
  | .renderTemplate template path data =>
    match w.library.render w.store template (data.getD site.defaults) with
    | (.error f, lib) => (.error f, { w with library := lib })
    | (.ok content, lib) => wrote (site.writeFile { w with library := lib } path content)
  | .copyStatic source path => match w.library.readStatic w.store source with
    | .error f => (.error f, w)
    | .ok content => wrote (site.writeFile w path content)
  | .writeJson path value => wrote (site.writeFile w path (jsonContent value))
  | .pathExists path => ((w.store.exists? (site.locate path)).map .present, w)

end Site

end Scaffold
