import Scaffold.Blueprint.Choice
import Scaffold.Text.Quoted

/-!
# Blueprints

`Choices` are answers whose form is right. A `Blueprint` is a set of choices that break none of the
four rules; the rules are tried in order, and the first broken one is the reason of a refusal.
-/

namespace Scaffold

structure Choices where
  name : String
  language : Language
  importStyle : ImportStyle
  database : Database
  orm : Orm
  target : String
  deriving DecidableEq, Repr

inductive BrokenRule where
  /-- Mongo goes with Mongoose or alone. -/
  | mongoNeedsMongoose (orm : Orm)
  | sqlWithMongoose (database : Database)
  | badName (name : String)
  | relativeTarget (target : String)
  deriving DecidableEq, Repr

def BrokenRule.message : BrokenRule → String
  | mongoNeedsMongoose orm =>
    "Invalid configuration: MongoDB requires Mongoose ORM, but got \"" ++ orm.word ++ "\""
  | sqlWithMongoose database =>
    "Invalid configuration: SQL database \"" ++ database.word ++ "\" cannot be used with Mongoose"
  | badName name =>
    "Invalid project name: \"" ++ name
      ++ "\". Must contain only lowercase letters, numbers, hyphens, and underscores"
  | relativeTarget target =>
    "Invalid target path: \"" ++ target ++ "\". Must be an absolute path."

/-- A lower-case letter, a digit, a hyphen or a low line, all of them ASCII. -/
def isNameChar (c : Char) : Bool := c.isLower || c.isDigit || c = '-' || c = '_'

/-- One or more name characters; a line feed may follow them. -/
def isAcceptedName (cs : List Char) : Bool :=
  let body := if cs.getLast? = some '\n' then cs.dropLast else cs
  !body.isEmpty && body.all isNameChar

def startsAtRoot (target : String) : Bool := target.toList.head? = some '/'

/-- The first rule that the choices break. -/
def Choices.broken? (c : Choices) : Option BrokenRule :=
  if c.database = .mongo ∧ c.orm ≠ .mongoose ∧ c.orm ≠ .absent then some (.mongoNeedsMongoose c.orm)
  else if c.database.isSql ∧ c.orm = .mongoose then some (.sqlWithMongoose c.database)
  else if !isAcceptedName c.name.toList then some (.badName c.name)
  else if !startsAtRoot c.target then some (.relativeTarget c.target)
  else none

/-- Choices that break no rule. -/
structure Blueprint where
  choices : Choices
  accepted : choices.broken? = none
  deriving DecidableEq

namespace Blueprint

def ofChoices (c : Choices) : Except BrokenRule Blueprint :=
  match h : c.broken? with
  | none => .ok ⟨c, h⟩
  | some rule => .error rule

/-! ## What follows from the choices -/

variable (b : Blueprint)

def name : String := b.choices.name
def language : Language := b.choices.language
def importStyle : ImportStyle := b.choices.importStyle
def database : Database := b.choices.database
def orm : Orm := b.choices.orm
def target : String := b.choices.target

def isTypescript : Bool := b.language = .typescript
def isJavascript : Bool := b.language = .javascript
def isEsm : Bool := b.importStyle = .esm
def isCommonjs : Bool := b.importStyle = .commonjs
def hasDatabase : Bool := b.database ≠ .absent
def hasOrm : Bool := b.orm ≠ .absent
def isSql : Bool := b.database.isSql
def isNosql : Bool := b.database = .mongo

def extension : String := if b.isTypescript then "ts" else "js"

/-- The choices by their long names. -/
def entries : List (String × String) := [
  ("project_name", b.name),
  ("language", b.language.word),
  ("import_style", b.importStyle.word),
  ("database", b.database.word),
  ("orm", b.orm.word),
  ("target_path", b.target)]

def display : String :=
  let shown := b.entries.map fun (key, value) => Text.quoted key ++ ": " ++ Text.quoted value
  "Blueprint(\x7b" ++ ", ".intercalate shown ++ "\x7d)"

end Blueprint

end Scaffold
