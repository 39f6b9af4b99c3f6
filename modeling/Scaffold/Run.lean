import Scaffold.Markup.Notice
import Scaffold.Options
import Scaffold.Recipe.Standard

/-!
# Runs

A run follows recipes one after the other on the site of one blueprint and puts their ledgers
together. When a recipe fails the run ends there; unless the options say otherwise, everything that
the ledgers name is removed again, newest first, and the root too if the run began without it. The
last thing a run does is to show a notice; names and paths stand in it as they are, so it may turn
out to be no sound markup.
-/

namespace Scaffold

open Template

/-- What the recipes created so far: all paths once, in order, and the ledger of each recipe. -/
structure Record where
  created : List String
  byRecipe : List (String × List String)
  deriving DecidableEq

namespace Record

def empty : Record := ⟨[], []⟩

/-- Adds paths that are not there yet. -/
def merge (created : List String) (ledger : List String) : List String :=
  ledger.foldl (fun paths p => if paths.contains p then paths else paths ++ [p]) created

/-- The ledgers with one more; a recipe of the same name is replaced in its place. -/
def putLedger (name : String) (ledger : List String) :
    List (String × List String) → List (String × List String)
  | [] => [(name, ledger)]
  | (n, l) :: rest =>
    if n = name then (n, ledger) :: rest else (n, l) :: putLedger name ledger rest

def collect (r : Record) (name : String) (ledger : List String) : Record :=
  ⟨merge r.created ledger, putLedger name ledger r.byRecipe⟩

end Record

/-- Why and where a run failed, and what it had created until then. -/
structure Failure where
  recipe : String
  cause : Fault
  created : List String
  undone : Bool
  deriving DecidableEq

/-- How a run can end without a result. -/
inductive Breakdown where
  /-- Before the first recipe. -/
  | early (f : Fault)
  | failed (f : Failure)
  /-- While it was being undone. -/
  | whileUndoing (f : Fault)
  /-- While its notice was being shown. -/
  | notice (why : Markup.Blemish)
  deriving DecidableEq

/-- The notice of a failed run. Words of the cause that are not given cannot be taken for markup. -/
def Failure.notice (f : Failure) : String :=
  "  [red]" ++ f.recipe ++ " failed: " ++ f.cause.words?.getD "" ++ "[/red]"

/-- The notice of a run that went through. -/
def Record.notice (r : Record) (root : Path) : String :=
  "  [green]Created " ++ toString r.created.length ++ " paths in " ++ root.text ++ "[/green]"

def report (notice : String) (result : Except Breakdown Record) : Except Breakdown Record :=
  match Markup.check notice with
  | .ok () => result
  | .error why => .error (.notice why)

def Failure.report (f : Failure) : Except Breakdown Record :=
  Scaffold.report f.notice (.error (.failed f))

namespace Run

/-- Removes paths in the given order as far as they can be removed, and answers with the removed. -/
def removeAll (s : Store) : List String → Except Fault (List String) × Store
  | [] => (.ok [], s)
  | path :: rest => match s.removePath (Path.ofString path) with
    | .error f => (.error f, s)
    | .ok (removed, s) =>
      let (others, s) := removeAll s rest
      (others.map fun paths => if removed then path :: paths else paths, s)

/-- Removes created paths, the newest first. -/
def undo (s : Store) (created : List String) : Except Fault (List String) × Store :=
  removeAll s created.reverse

/-- Undoes a failed run; a root that it began without goes last. -/
def undoRun (s : Store) (root : Path) (rootExisted : Bool) (created : List String) :
    Except Fault Unit × Store :=
  match undo s created with
  | (.error f, s) => (.error f, s)
  | (.ok _, s) =>
    if rootExisted then (.ok (), s)
    else match s.removePath root with
      | .error f => (.error f, s)
      | .ok (_, s) => (.ok (), s)

structure World (E : Engine) where
  store : Store
  library : Library E

variable {E : Engine}

def fail (opts : Options) (root : Path) (rootExisted : Bool) (recipe : String) (cause : Fault)
    (created : List String) (world : World E) : Except Breakdown Record × World E :=
  if opts.undoOnFailure then
    match undoRun world.store root rootExisted created with
    | (.error f, s) => (.error (.whileUndoing f), ⟨s, world.library⟩)
    | (.ok (), s) => (Failure.report ⟨recipe, cause, created, true⟩, ⟨s, world.library⟩)
  else (Failure.report ⟨recipe, cause, created, false⟩, world)

def follow (opts : Options) (b : Blueprint) (rootExisted : Bool) :
    List Recipe → Record → World E → Except Breakdown Record × World E
  | [], record, world => (report (record.notice b.site.root) (.ok record), world)
  | r :: rest, record, world =>
    let (result, w) := r.run b world.store world.library
    let record := record.collect r.name w.ledger
    let world : World E := ⟨w.store, w.library⟩
    match result with
    | .ok () => follow opts b rootExisted rest record world
    | .error f => fail opts b.site.root rootExisted r.name f record.created world

def scaffold (opts : Options) (b : Blueprint) (recipes : List Recipe) (world : World E) :
    Except Breakdown Record × World E :=
  match world.store.exists? b.site.root with
  | .error f => (.error (.early f), world)
  | .ok rootExisted => follow opts b rootExisted recipes .empty world

end Run

end Scaffold
