/-!
# Choices

The four questions that a blueprint answers by one word each.
-/

namespace Scaffold

inductive Language where
  | typescript
  | javascript
  deriving DecidableEq, Repr

inductive ImportStyle where
  | esm
  | commonjs
  deriving DecidableEq, Repr

inductive Database where
  | postgres
  | mysql
  | sqlite
  | mongo
  | absent
  deriving DecidableEq, Repr

/-- The layer between program and database. -/
inductive Orm where
  | prisma
  | drizzle
  | mongoose
  | absent
  deriving DecidableEq, Repr

/-- A question with finitely many answers, each one word. -/
class Choice (α : Type) where
  all : List α
  word : α → String

namespace Choice

variable {α : Type} [Choice α]

def ofWord? (s : String) : Option α := (all : List α).find? fun a => word a = s

def words (α : Type) [Choice α] : List String := (all : List α).map word

end Choice

instance : Choice Language where
  all := [.typescript, .javascript]
  word
    | .typescript => "typescript"
    | .javascript => "javascript"

instance : Choice ImportStyle where
  all := [.esm, .commonjs]
  word
    | .esm => "esm"
    | .commonjs => "commonjs"

instance : Choice Database where
  all := [.postgres, .mysql, .sqlite, .mongo, .absent]
  word
    | .postgres => "postgres"
    | .mysql => "mysql"
    | .sqlite => "sqlite"
    | .mongo => "mongo"
    | .absent => "none"

instance : Choice Orm where
  all := [.prisma, .drizzle, .mongoose, .absent]
  word
    | .prisma => "prisma"
    | .drizzle => "drizzle"
    | .mongoose => "mongoose"
    | .absent => "none"

def Language.word (x : Language) : String := Choice.word x
def ImportStyle.word (x : ImportStyle) : String := Choice.word x
def Database.word (x : Database) : String := Choice.word x
def Orm.word (x : Orm) : String := Choice.word x

namespace Database

def isSql : Database → Bool
  | postgres | mysql | sqlite => true
  | _ => false

end Database

end Scaffold
