import Scaffold.Blueprint.Basic
import Scaffold.Json.Basic

/-!
# What a blueprint settles

The packages, scripts and templates that follow from the choices, and the render data that all
templates see by default.
-/

namespace Scaffold

abbrev Package := String × String

def Orm.client? : Orm → Option Package
  | .prisma => some ("@prisma/client", "^5.8.0")
  | .drizzle => some ("drizzle-orm", "^0.29.3")
  | .mongoose => some ("mongoose", "^8.1.0")
  | .absent => none

def Orm.tool? : Orm → Option Package
  | .prisma => some ("prisma", "^5.8.0")
  | .drizzle => some ("drizzle-kit", "^0.20.10")
  | .mongoose | .absent => none

def Orm.scripts : Orm → List (String × String)
  | .prisma => [
    ("prisma:generate", "prisma generate"),
    ("prisma:migrate", "prisma migrate dev"),
    ("prisma:studio", "prisma studio")]
  | .drizzle => [
    ("db:generate", "drizzle-kit generate:pg"),
    ("db:push", "drizzle-kit push:pg"),
    ("db:studio", "drizzle-kit studio")]
  | .mongoose | .absent => []

def Orm.clientTemplate? : Orm → Option String
  | .prisma => some "db/prisma-client.j2"
  | .drizzle => some "db/drizzle-client.j2"
  | .mongoose => some "db/mongoose-client.j2"
  | .absent => none

def Database.driver? : Database → Option Package
  | .postgres => some ("pg", "^8.11.3")
  | .mysql => some ("mysql2", "^3.6.5")
  | .sqlite => some ("better-sqlite3", "^9.2.2")
  | .mongo | .absent => none

namespace Blueprint

variable (b : Blueprint)

def runtimePackages : List Package :=
  ("express", "^4.18.2") :: b.orm.client?.toList ++ b.database.driver?.toList
    ++ [("dotenv", "^16.3.1")]

def developmentPackages : List Package :=
  let typescript := [
    ("typescript", "^5.3.3"),
    ("@types/node", "^20.11.0"),
    ("@types/express", "^4.17.21"),
    ("ts-node", "^10.9.2")]
  let postgres := [("@types/pg", "^8.10.9")]
  ("nodemon", "^3.0.2")
    :: (if b.isTypescript then typescript ++ (if b.database = .postgres then postgres else [])
        else [])
    ++ b.orm.tool?.toList

def scripts : List (String × String) :=
  (if b.isTypescript then
    [("dev", "nodemon"), ("build", "tsc"), ("start", "node dist/server.js")]
  else [("dev", "nodemon src/server.js"), ("start", "node src/server.js")])
    ++ b.orm.scripts

def serverTemplate : String :=
  "server/" ++ b.importStyle.word ++ "-" ++ b.language.word ++ ".j2"

def clientTemplate? : Option String := b.orm.clientTemplate?

def databaseSummary : List (String × Json) := [
  ("type", .str b.database.word),
  ("orm", .str b.orm.word),
  ("has_orm", .bool b.hasOrm),
  ("has_database", .bool b.hasDatabase)]

/-- The render data of a blueprint: its choices and all that follows from them. -/
def context : List (String × Json) :=
  b.entries.map (fun (key, value) => (key, .str value)) ++ [
    ("is_typescript", .bool b.isTypescript),
    ("is_javascript", .bool b.isJavascript),
    ("is_esm", .bool b.isEsm),
    ("is_commonjs", .bool b.isCommonjs),
    ("has_database", .bool b.hasDatabase),
    ("has_orm", .bool b.hasOrm),
    ("is_sql_database", .bool b.isSql),
    ("is_nosql_database", .bool b.isNosql),
    ("file_extension", .str b.extension)]

end Blueprint

end Scaffold
