import Scaffold.Fault
import Scaffold.Text.Content
import Scaffold.Text.Lines

/-!
# Operations on the store

What a program can do to the disk: ask, create directories and files, read, remove. An operation
that the system refuses names its path. Two of them may leave something behind when they fail:
`makeDirs` the directories that it could create, and `writeText` an empty file, since a file is
opened before the text is turned into bytes.
-/

namespace Scaffold.Store

def look (s : Store) (aim : Aim) (p : Path) : Except Fault (Option (Loc × Entry)) :=
  (s.probe aim p).mapError (.refused · p.text)

/-! ## Questions -/

/-- Something is there, behind links. -/
def exists? (s : Store) (p : Path) : Except Fault Bool :=
  (s.look .target p).map Option.isSome

def isDirectory? (s : Store) (p : Path) : Except Fault Bool :=
  (s.look .target p).map fun found => found.any fun e => e.2.isDirectory

def isFile? (s : Store) (p : Path) : Except Fault Bool :=
  (s.look .target p).map fun found => found.any fun e => e.2.isFile

/-- The path itself is a link. -/
def isLink? (s : Store) (p : Path) : Except Fault Bool :=
  (s.look .itself p).map fun found => found.any fun e => e.2.isLink

/-! ## Creating -/

def makeDir (s : Store) (p : Path) : Except Fault Store :=
  if p.hasNul then .error .nulInPath
  else match s.place .itself p with
    | .entry _ => .error (.refused .exists p.text)
    | .vacant dir name => .ok (s.insert (name :: dir) .directory)
    | .refused why => .error (.refused why p.text)

/-- A failure to create a directory is none if the directory is there. -/
def toleratePresent (s : Store) (p : Path) (f : Fault) : Except Fault Unit :=
  match f with
  | .refused .. => match s.isDirectory? p with
    | .ok true => .ok ()
    | .ok false => .error f
    | .error g => .error g
  | _ => .error f

/-- Creates the directory with the given names, innermost first, and those above it. -/
def makeDirsAt (anchor : Anchor) : List String → Store → Except Fault Unit × Store
  | [], s => match s.makeDir ⟨anchor, []⟩ with
    | .ok s => (.ok (), s)
    | .error f => (toleratePresent s ⟨anchor, []⟩ f, s)
  | name :: outer, s =>
    let p : Path := ⟨anchor, (name :: outer).reverse⟩
    match s.makeDir p with
    | .ok s => (.ok (), s)
    | .error (.refused .noEntry _) => match makeDirsAt anchor outer s with
      | (.error f, s) => (.error f, s)
      | (.ok (), s) => match s.makeDir p with
        | .ok s => (.ok (), s)
        | .error (.refused .noEntry path) => (.error (.refused .noEntry path), s)
        | .error f => (toleratePresent s p f, s)
    | .error f => (toleratePresent s p f, s)

def makeDirs (s : Store) (p : Path) : Except Fault Unit × Store :=
  makeDirsAt p.anchor p.names.reverse s

/-- Opens a file for new content: it is created if nothing is there, and empty from then on. -/
def openFile (s : Store) (p : Path) : Except Fault (Loc × Store) :=
  if p.hasNul then .error .nulInPath
  else match s.place .creation p with
    | .entry loc => match s.at? loc with
      | some (.file _) => .ok (loc, s.insert loc (.file .empty))
      | _ => .error (.refused .isDirectory p.text)
    | .vacant dir name => .ok (name :: dir, s.insert (name :: dir) (.file .empty))
    | .refused why => .error (.refused why p.text)

/-- Puts text into a file, in UTF-8. A text without such a form leaves the file empty. -/
def writeText (s : Store) (p : Path) (content : Content) : Except Fault Unit × Store :=
  match s.openFile p with
  | .error f => (.error f, s)
  | .ok (loc, s) => match content.bytes? with
    | some bytes => (.ok (), s.insert loc (.file bytes))
    | none => (.error .unencodable, s)

/-- Writes a file after making sure of the directory that it goes to. -/
def writeBelow (s : Store) (p : Path) (content : Content) : Except Fault Unit × Store :=
  match s.makeDirs p.parent with
  | (.error f, s) => (.error f, s)
  | (.ok (), s) => s.writeText p content

def makeLink (s : Store) (p : Path) (target : String) : Except Fault Store :=
  if p.hasNul then .error .nulInPath
  else match s.place .itself p with
    | .entry _ => .error (.refused .exists p.text)
    | .vacant dir name => .ok (s.insert (name :: dir) (.link target))
    | .refused why => .error (.refused why p.text)

/-! ## Reading -/

def readBytes (s : Store) (p : Path) : Except Fault ByteArray :=
  if p.hasNul then .error .nulInPath
  else match s.place .target p with
    | .entry loc => match s.at? loc with
      | some (.file content) => .ok content
      | _ => .error (.refused .isDirectory p.text)
    | .vacant .. => .error (.refused .noEntry p.text)
    | .refused why => .error (.refused why p.text)

def readChars (s : Store) (p : Path) : Except Fault (List Char) := do
  let bytes ← s.readBytes p
  match String.fromUTF8? bytes with
  | some text => .ok text.toList
  | none => .error .notText

/-- The characters of a UTF-8 file with every line end as a line feed. -/
def readText (s : Store) (p : Path) : Except Fault (List Char) :=
  (s.readChars p).map Text.unifyLineEnds

/-! ## Removing -/

/-- Nothing lies in the directory that a path leads to. -/
def isEmptyDirectory? (s : Store) (p : Path) : Except Fault Bool :=
  if p.hasNul then .error .nulInPath
  else match s.place .target p with
    | .entry loc =>
      if s.isDirectoryAt loc then .ok (s.isBare loc) else .error (.refused .notDirectory p.text)
    | .vacant .. => .error (.refused .noEntry p.text)
    | .refused why => .error (.refused why p.text)

/-- Removes an empty directory. The root of the disk cannot be removed, under no name. -/
def removeDirectory (s : Store) (p : Path) : Except Fault Store :=
  if p.hasNul then .error .nulInPath
  else match s.place .itself p with
    | .entry loc =>
      if !s.isDirectoryAt loc then .error (.refused .notDirectory p.text)
      else if loc = [] then
        let why := if p.names.getLast? = some ".." then Refusal.notEmpty else .busy
        .error (.refused why p.text)
      else if s.isBare loc then .ok (s.erase loc)
      else .error (.refused .notEmpty p.text)
    | .vacant .. => .error (.refused .noEntry p.text)
    | .refused why => .error (.refused why p.text)

def removeFile (s : Store) (p : Path) : Except Fault Store :=
  if p.hasNul then .error .nulInPath
  else match s.place .itself p with
    | .entry loc =>
      if s.isDirectoryAt loc then .error (.refused .isDirectory p.text) else .ok (s.erase loc)
    | .vacant .. => .error (.refused .noEntry p.text)
    | .refused why => .error (.refused why p.text)

/-- Removes a file, a link or an empty directory, never what a link leads to. Answers whether
something was removed. -/
def removePath (s : Store) (p : Path) : Except Fault (Bool × Store) := do
  if ← s.isDirectory? p <&&> not <$> s.isLink? p then
    if ← s.isEmptyDirectory? p then return (true, ← s.removeDirectory p) else return (false, s)
  else if ← s.exists? p <||> s.isLink? p then return (true, ← s.removeFile p)
  else return (false, s)

end Scaffold.Store
