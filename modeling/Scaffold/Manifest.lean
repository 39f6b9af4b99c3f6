import Scaffold.Blueprint.Derived

/-!
# Manifest

The package manifest of a project.
-/

namespace Scaffold

/-- A table of texts as a JSON object. -/
def Json.ofTable (table : List (String × String)) : Json :=
  .obj (table.map fun (key, value) => (key, .str value))

def Blueprint.manifest (b : Blueprint) : List (String × Json) := [
  ("name", .str b.name),
  ("version", .str "1.0.0"),
  ("description", .str ""),
  ("main", .str (if b.isTypescript then "dist/server.js" else "src/server.js")),
  ("type", .str (if b.isEsm then "module" else "commonjs")),
  ("scripts", Json.ofTable b.scripts),
  ("dependencies", Json.ofTable b.runtimePackages),
  ("devDependencies", Json.ofTable b.developmentPackages),
  ("engines", Json.ofTable [("node", ">=18")])]

end Scaffold
