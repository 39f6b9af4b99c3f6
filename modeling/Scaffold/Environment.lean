import Scaffold.Fault
import Scaffold.Text.Replace

/-!
# Environment files

The variables that a project reads when it runs, with working values for development and example
values for everyone else, and the file that holds one of the two.
-/

namespace Scaffold

/-- A variable with its value, its example value and a remark. -/
structure Variable where
  key : String
  value : String
  «example» : String
  comment : Option String
  deriving DecidableEq, Repr

namespace Variable

def recordName : String := "EnvVar"

def readComment (fields : List (String × Json)) : Except Issue (Option String) :=
  match Json.lastField? "comment" fields with
  | none | some .null => .ok none
  | some x => match x.text with
    | .ok s => .ok (some s)
    | .error problem => .error ⟨some "comment", problem⟩

/-- Reads a variable; other fields are passed over. -/
def ofFields (fields : List (String × Json)) : Except (List Issue) Variable :=
  let key := FieldName.read ⟨"key", none⟩ fields Json.text
  let value := FieldName.read ⟨"value", none⟩ fields Json.text
  let sample := FieldName.read ⟨"example", none⟩ fields Json.text
  let comment := readComment fields
  match key, value, sample, comment with
  | .ok key, .ok value, .ok sample, .ok comment => .ok ⟨key, value, sample, comment⟩
  | key, value, sample, comment =>
    .error (Issue.ofResult key ++ Issue.ofResult value ++ Issue.ofResult sample
      ++ Issue.ofResult comment)

/-- The lines of one variable: its remark if it has any, its assignment, and a blank line. -/
def lines (isExample : Bool) (v : Variable) : List String :=
  let remark := match v.comment with
    | some c => if c = "" then [] else ["# " ++ c]
    | none => []
  remark ++ [v.key ++ "=" ++ (if isExample then v.example else v.value), ""]

/-- What an example file opens with. -/
def header : List String := [
  "# Environment Variable Template",
  "# Copy this file to .env and fill in your actual values",
  ""]

def fileText (vars : List Variable) (isExample : Bool) : String :=
  "\n".intercalate ((if isExample then header else []) ++ vars.flatMap (lines isExample))

end Variable

/-! ## Connection strings -/

/-- The address of a database server with a database of the given name. -/
def Database.serverUrl? (database : Database) (name : String) (isExample : Bool) : Option String :=
  match database with
  | .postgres =>
    some ("postgresql://postgres:" ++ (if isExample then "pass123" else "postgres")
      ++ "@localhost:5432/" ++ name)
  | .mysql =>
    some ("mysql://root:" ++ (if isExample then "pass123" else "root")
      ++ "@localhost:3306/" ++ name)
  | .mongo => some ("mongodb://localhost:27017/" ++ name)
  | .sqlite | .absent => none

namespace Blueprint

/-- The project's name with low lines for hyphens. -/
def databaseName (b : Blueprint) : String :=
  String.ofList (Text.replace ['-'] ['_'] none b.name.toList)

/-- The connection string of the project's database. A shadow database stands beside it. -/
def databaseUrl (b : Blueprint) (isExample isShadow : Bool) : Except Fault String :=
  if b.database = .sqlite then .ok (if isShadow then "file:./shadow.db" else "file:./dev.db")
  else
    let base := if isExample then "mydb" else b.databaseName
    let name := if isShadow then base ++ "_shadow" else base
    match b.database.serverUrl? name isExample with
    | some url => .ok url
    | none => .error (.unsupportedDatabase b.database)

def urlVariable (b : Blueprint) (key comment : String) (isShadow : Bool) :
    Except Fault Variable := do
  let value ← b.databaseUrl false isShadow
  let sample ← b.databaseUrl true isShadow
  .ok ⟨key, value, sample, some comment⟩

def environment (b : Blueprint) : Except Fault (List Variable) := do
  let always : List Variable := [
    ⟨"NODE_ENV", "development", "development",
      some "Application environment (development, production, test)"⟩,
    ⟨"PORT", "3000", "3000", some "The port the server listens on"⟩]
  if !b.hasDatabase then .ok always
  else
    let url ← b.urlVariable "DATABASE_URL" "Database connection string" false
    if b.orm = .prisma then
      let shadow ← b.urlVariable "SHADOW_DATABASE_URL"
        "Prisma shadow database for safe migrations (dev only)" true
      .ok (always ++ [url, shadow])
    else .ok (always ++ [url])

end Blueprint

end Scaffold
