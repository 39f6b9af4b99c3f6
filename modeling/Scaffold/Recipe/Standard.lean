import Scaffold.Environment
import Scaffold.Layout
import Scaffold.Manifest
import Scaffold.Recipe.Basic

/-!
# The standard recipes

The recipes that make up a project, in the order in which they are followed: the directories come
first.
-/

namespace Scaffold.Recipe

open Template

/-- A rendered template, with data of its own. -/
def rendered (template path : String) (data : List (String × Json)) : Command :=
  .renderTemplate template path (some (Data.ofFields data))

/-- A rendered template that sees everything a blueprint settles. -/
def renderedByDefault (template path : String) : Command := .renderTemplate template path none

def folders : Recipe where
  name := "FolderStructureGenerator"
  script b := .ofCommands (b.requiredFolders.map .createDirectory)

def packageManifest : Recipe where
  name := "PackageJsonGenerator"
  script b := .ofCommands [.writeJson "package.json" (.obj b.manifest)]

def environment : Recipe where
  name := "EnvGenerator"
  script b := match b.environment with
    | .error f => .fail f
    | .ok vars => .ofCommands [
      .writeFile ".env" (Variable.fileText vars false),
      .writeFile ".env.example" (Variable.fileText vars true)]

def gitignore : Recipe where
  name := "GitignoreGenerator"
  script b := .ofCommands [rendered "base/gitignore.j2" ".gitignore" [
    ("is_typescript", .bool b.isTypescript),
    ("is_javascript", .bool b.isJavascript),
    ("has_database", .bool b.hasDatabase),
    ("orm", .str b.orm.word),
    ("database", .str b.database.word)]]

def tsconfig : Recipe where
  name := "TsconfigGenerator"
  script b := .ofCommands (if b.isTypescript then
    [rendered "base/tsconfig.json.j2" "tsconfig.json" [
      ("is_esm", .bool b.isEsm),
      ("has_database", .bool b.hasDatabase)]]
    else [])

def server : Recipe where
  name := "ServerGenerator"
  script b := .ofCommands [
    renderedByDefault "server/app.j2" ("src/app." ++ b.extension),
    renderedByDefault b.serverTemplate ("src/server." ++ b.extension)]

/-- What answers a failed request and one without a route. -/
def middleware : Recipe where
  name := "MiddlewareGenerator"
  script b :=
    let data := [("is_typescript", .bool b.isTypescript), ("is_esm", .bool b.isEsm)]
    .ofCommands [
      rendered "middleware/errorHandler.j2" ("src/middlewares/errorHandler." ++ b.extension) data,
      rendered "middleware/notFoundHandler.j2"
        ("src/middlewares/notFoundHandler." ++ b.extension) data]

def routes : Recipe where
  name := "RoutesGenerator"
  script b :=
    let data := [
      ("is_typescript", .bool b.isTypescript),
      ("is_esm", .bool b.isEsm),
      ("has_database", .bool b.hasDatabase)]
    .ofCommands [
      rendered "routes/health.j2" ("src/routes/health." ++ b.extension) data,
      rendered "controllers/healthController.j2"
        ("src/controllers/healthController." ++ b.extension) data]

def schemaPath : String := "prisma/schema.prisma"

/-- A Prisma schema, unless one is there. -/
def schemaScript : Script :=
  .call (.pathExists schemaPath) (.andThen fun
    | .present true => .done
    | _ => .ofCommands [renderedByDefault "db/prisma-schema.j2" schemaPath])

def databaseClient : Recipe where
  name := "DatabaseClientGenerator"
  script b := match b.clientTemplate? with
    | none => .done
    | some template =>
      if !b.hasDatabase then .done
      else .step (renderedByDefault template ("src/db/client." ++ b.extension))
        (if b.orm = .prisma then schemaScript else .done)

def standard : List Recipe := [
  folders, packageManifest, environment, gitignore, tsconfig, server, middleware, routes,
  databaseClient]

end Scaffold.Recipe
