import Scaffold.Blueprint.Basic

/-!
# Layout

The directories of a project. The list names all candidates; a project gets the required ones.
-/

namespace Scaffold

structure Folder where
  path : String
  required : Bool
  purpose : String
  deriving DecidableEq, Repr

namespace Blueprint

/-- All folders that a project may have, the outer ones first. -/
def folders (b : Blueprint) : List Folder := [
  ⟨"src", true, "Root source directory for all application code"⟩,
  ⟨"src/config", true, "Application configuration (env vars, constants)"⟩,
  ⟨"src/routes", true, "Express route definitions (url -> controller)"⟩,
  ⟨"src/controller", true, "Request handlers called by routes"⟩,
  ⟨"src/middlewares", true, "Express middleware (auth, validation, errors)"⟩,
  ⟨"src/services", true, "Business logic layer"⟩,
  ⟨"src/models", b.hasDatabase, "Data models and schemas"⟩,
  ⟨"src/db", b.hasDatabase, "Database connection and client setup"⟩,
  ⟨"docs", true, "Project documentation"⟩]

def requiredFolders (b : Blueprint) : List String :=
  (b.folders.filter Folder.required).map Folder.path

end Blueprint

end Scaffold
