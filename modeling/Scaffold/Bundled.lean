import Scaffold.Path.Basic
import Scaffold.Store.Basic

/-!
# Bundled templates

The templates of the generated project, line by line, and where they are kept.
-/

namespace Scaffold.Bundled

/-- Lines, each with its line end. -/
def ofLines (lines : List String) : String := String.join (lines.map (· ++ "\n"))

def gitignore : List String := [
  "# Dependencies",
  "node_modules/",
  "",
  "# Environment",
  ".env",
  ".env.local",
  ".env.*.local",
  "",
  "# Logs",
  "logs/",
  "*.log",
  "npm-debug.log*",
  "",
  "# OS / editor",
  ".DS_Store",
  ".vscode/",
  ".idea/",
  "\x7b% if is_typescript %\x7d",
  "",
  "# Build output",
  "dist/",
  "*.tsbuildinfo",
  "\x7b% endif %\x7d",
  "\x7b% if has_database %\x7d",
  "",
  "# Local databases",
  "*.db",
  "*.sqlite",
  "\x7b% endif %\x7d",
  "\x7b% if orm == \"prisma\" %\x7d",
  "",
  "# Prisma",
  "prisma/migrations/dev/",
  "\x7b% endif %\x7d",
  "\x7b% if orm == \"drizzle\" %\x7d",
  "",
  "# Drizzle",
  "drizzle/meta/",
  "\x7b% endif %\x7d"]

def tsconfig : List String := [
  "\x7b",
  "  \"compilerOptions\": \x7b",
  "    \"target\": \"ES2022\",",
  "\x7b% if is_esm %\x7d",
  "    \"module\": \"NodeNext\",",
  "    \"moduleResolution\": \"NodeNext\",",
  "\x7b% else %\x7d",
  "    \"module\": \"CommonJS\",",
  "    \"moduleResolution\": \"Node\",",
  "\x7b% endif %\x7d",
  "    \"rootDir\": \"src\",",
  "    \"outDir\": \"dist\",",
  "    \"strict\": true,",
  "    \"esModuleInterop\": true,",
  "    \"skipLibCheck\": true,",
  "    \"forceConsistentCasingInFileNames\": true,",
  "\x7b% if has_database %\x7d",
  "    \"experimentalDecorators\": true,",
  "    \"emitDecoratorMetadata\": true,",
  "\x7b% endif %\x7d",
  "    \"resolveJsonModule\": true,",
  "    \"sourceMap\": true",
  "  \x7d,",
  "  \"include\": [\"src/**/*\"],",
  "  \"exclude\": [\"node_modules\", \"dist\"]",
  "\x7d"]

def healthController : List String := [
  "\x7b% if is_typescript %\x7d",
  "import \x7b Request, Response \x7d from \"express\";",
  "",
  "export function getHealth(req: Request, res: Response): void \x7b",
  "\x7b% elif is_esm %\x7d",
  "export function getHealth(req, res) \x7b",
  "\x7b% else %\x7d",
  "function getHealth(req, res) \x7b",
  "\x7b% endif %\x7d",
  "  res.json(\x7b",
  "    status: \"ok\",",
  "    uptime: process.uptime(),",
  "\x7b% if has_database %\x7d",
  "    database: \"configured\",",
  "\x7b% endif %\x7d",
  "    timestamp: new Date().toISOString(),",
  "  \x7d);",
  "\x7d",
  "\x7b% if not is_typescript and not is_esm %\x7d",
  "",
  "module.exports = \x7b getHealth \x7d;",
  "\x7b% endif %\x7d"]

def drizzleClient : List String := [
  "\x7b% if database == \"postgres\" %\x7d",
  "\x7b% set driver_import = 'drizzle-orm/node-postgres' %\x7d",
  "\x7b% elif database == \"mysql\" %\x7d",
  "\x7b% set driver_import = 'drizzle-orm/mysql2' %\x7d",
  "\x7b% else %\x7d",
  "\x7b% set driver_import = 'drizzle-orm/better-sqlite3' %\x7d",
  "\x7b% endif %\x7d",
  "\x7b% if is_esm or is_typescript %\x7d",
  "import \x7b drizzle \x7d from \"\x7b\x7b driver_import \x7d\x7d\";",
  "\x7b% if database == \"postgres\" %\x7d",
  "import pg from \"pg\";",
  "\x7b% elif database == \"mysql\" %\x7d",
  "import mysql from \"mysql2/promise\";",
  "\x7b% else %\x7d",
  "import Database from \"better-sqlite3\";",
  "\x7b% endif %\x7d",
  "\x7b% else %\x7d",
  "const \x7b drizzle \x7d = require(\"\x7b\x7b driver_import \x7d\x7d\");",
  "\x7b% if database == \"postgres\" %\x7d",
  "const pg = require(\"pg\");",
  "\x7b% elif database == \"mysql\" %\x7d",
  "const mysql = require(\"mysql2/promise\");",
  "\x7b% else %\x7d",
  "const Database = require(\"better-sqlite3\");",
  "\x7b% endif %\x7d",
  "\x7b% endif %\x7d",
  "",
  "\x7b% if database == \"postgres\" %\x7d",
  "const client = new pg.Pool(\x7b connectionString: process.env.DATABASE_URL \x7d);",
  "\x7b% elif database == \"mysql\" %\x7d",
  "const client = mysql.createPool(process.env.DATABASE_URL\x7b\x7b \" as string\" if is_typescript else \"\" \x7d\x7d);",
  "\x7b% else %\x7d",
  "const client = new Database((process.env.DATABASE_URL || \"file:./dev.db\").replace(/^file:/, \"\"));",
  "\x7b% endif %\x7d",
  "",
  "\x7b% if is_esm or is_typescript %\x7dexport \x7b% endif %\x7dconst db = drizzle(client);",
  "",
  "\x7b% if is_esm or is_typescript %\x7dexport \x7b% endif %\x7dasync function connectDatabase()\x7b\x7b \": Promise<void>\" if is_typescript else \"\" \x7d\x7d \x7b",
  "\x7b% if database == \"postgres\" %\x7d",
  "  await client.query(\"SELECT 1\");",
  "\x7b% elif database == \"mysql\" %\x7d",
  "  await client.query(\"SELECT 1\");",
  "\x7b% else %\x7d",
  "  client.prepare(\"SELECT 1\").get();",
  "\x7b% endif %\x7d",
  "\x7d",
  "\x7b% if not is_esm and not is_typescript %\x7d",
  "",
  "module.exports = \x7b db, connectDatabase \x7d;",
  "\x7b% endif %\x7d"]

def mongooseClient : List String := [
  "\x7b% if is_esm or is_typescript %\x7d",
  "import mongoose from \"mongoose\";",
  "\x7b% else %\x7d",
  "const mongoose = require(\"mongoose\");",
  "\x7b% endif %\x7d",
  "",
  "\x7b% if is_esm or is_typescript %\x7dexport \x7b% endif %\x7dasync function connectDatabase()\x7b\x7b \": Promise<void>\" if is_typescript else \"\" \x7d\x7d \x7b",
  "  const url = process.env.DATABASE_URL || \"mongodb://localhost:27017/\x7b\x7b project_name | replace(\"-\", \"_\") \x7d\x7d\";",
  "  await mongoose.connect(url);",
  "\x7d",
  "\x7b% if not is_esm and not is_typescript %\x7d",
  "",
  "module.exports = \x7b connectDatabase \x7d;",
  "\x7b% endif %\x7d"]

def prismaClient : List String := [
  "\x7b% if is_esm or is_typescript %\x7d",
  "import \x7b PrismaClient \x7d from \"@prisma/client\";",
  "\x7b% else %\x7d",
  "const \x7b PrismaClient \x7d = require(\"@prisma/client\");",
  "\x7b% endif %\x7d",
  "",
  "\x7b% if is_esm or is_typescript %\x7dexport \x7b% endif %\x7dconst prisma = new PrismaClient();",
  "",
  "\x7b% if is_esm or is_typescript %\x7dexport \x7b% endif %\x7dasync function connectDatabase()\x7b\x7b \": Promise<void>\" if is_typescript else \"\" \x7d\x7d \x7b",
  "  await prisma.$connect();",
  "\x7d",
  "\x7b% if not is_esm and not is_typescript %\x7d",
  "",
  "module.exports = \x7b prisma, connectDatabase \x7d;",
  "\x7b% endif %\x7d"]

/-- The first Prisma schema, with one model named after the project. -/
def prismaSchema : List String := [
  "// Prisma schema for \x7b\x7b project_name \x7d\x7d",
  "// Docs: https://pris.ly/d/prisma-schema",
  "",
  "generator client \x7b",
  "  provider = \"prisma-client-js\"",
  "\x7d",
  "",
  "datasource db \x7b",
  "  provider          = \"\x7b\x7b \"postgresql\" if database == \"postgres\" else database \x7d\x7d\"",
  "  url               = env(\"DATABASE_URL\")",
  "  shadowDatabaseUrl = env(\"SHADOW_DATABASE_URL\")",
  "\x7d",
  "",
  "model \x7b\x7b project_name | pascalCase \x7d\x7dHealth \x7b",
  "  id        Int      @id @default(autoincrement())",
  "  checkedAt DateTime @default(now())",
  "\x7d"]

def errorHandler : List String := [
  "\x7b% if is_typescript %\x7d",
  "import \x7b Request, Response, NextFunction \x7d from \"express\";",
  "",
  "interface ApiError extends Error \x7b",
  "  status?: number;",
  "\x7d",
  "",
  "export default function errorHandler(",
  "  err: ApiError,",
  "  req: Request,",
  "  res: Response,",
  "  next: NextFunction,",
  "): void \x7b",
  "  console.error(err);",
  "  const status = err.status ?? 500;",
  "  res.status(status).json(\x7b",
  "    error: status === 500 ? \"Internal Server Error\" : err.message,",
  "  \x7d);",
  "\x7d",
  "\x7b% else %\x7d",
  "\x7b% if is_esm %\x7dexport default \x7b% endif %\x7dfunction errorHandler(err, req, res, next) \x7b",
  "  console.error(err);",
  "  const status = err.status || 500;",
  "  res.status(status).json(\x7b",
  "    error: status === 500 ? \"Internal Server Error\" : err.message,",
  "  \x7d);",
  "\x7d",
  "\x7b% if not is_esm %\x7d",
  "",
  "module.exports = errorHandler;",
  "\x7b% endif %\x7d",
  "\x7b% endif %\x7d"]

def notFoundHandler : List String := [
  "\x7b% if is_typescript %\x7d",
  "import \x7b Request, Response, NextFunction \x7d from \"express\";",
  "",
  "export default function notFoundHandler(",
  "  req: Request,",
  "  res: Response,",
  "  next: NextFunction,",
  "): void \x7b",
  "  res.status(404).json(\x7b error: `Not Found: $\x7breq.originalUrl\x7d` \x7d);",
  "\x7d",
  "\x7b% else %\x7d",
  "\x7b% if is_esm %\x7dexport default \x7b% endif %\x7dfunction notFoundHandler(req, res, next) \x7b",
  "  res.status(404).json(\x7b error: `Not Found: $\x7breq.originalUrl\x7d` \x7d);",
  "\x7d",
  "\x7b% if not is_esm %\x7d",
  "",
  "module.exports = notFoundHandler;",
  "\x7b% endif %\x7d",
  "\x7b% endif %\x7d"]

def healthRoute : List String := [
  "\x7b% if is_esm or is_typescript %\x7d",
  "import \x7b Router \x7d from \"express\";",
  "import \x7b getHealth \x7d from \"../controllers/healthController\x7b\x7b \".js\" if is_esm else \"\" \x7d\x7d\";",
  "\x7b% else %\x7d",
  "const \x7b Router \x7d = require(\"express\");",
  "const \x7b getHealth \x7d = require(\"../controllers/healthController\");",
  "\x7b% endif %\x7d",
  "",
  "const router = Router();",
  "",
  "router.get(\"/\", getHealth);",
  "",
  "\x7b% if is_esm or is_typescript %\x7d",
  "export default router;",
  "\x7b% else %\x7d",
  "module.exports = router;",
  "\x7b% endif %\x7d"]

def app : List String := [
  "\x7b% set suffix = \".js\" if is_esm else \"\" %\x7d",
  "\x7b% if is_esm or is_typescript %\x7d",
  "import express from \"express\";",
  "import healthRouter from \"./routes/health\x7b\x7b suffix \x7d\x7d\";",
  "import errorHandler from \"./middlewares/errorHandler\x7b\x7b suffix \x7d\x7d\";",
  "import notFoundHandler from \"./middlewares/notFoundHandler\x7b\x7b suffix \x7d\x7d\";",
  "\x7b% else %\x7d",
  "const express = require(\"express\");",
  "const healthRouter = require(\"./routes/health\");",
  "const errorHandler = require(\"./middlewares/errorHandler\");",
  "const notFoundHandler = require(\"./middlewares/notFoundHandler\");",
  "\x7b% endif %\x7d",
  "",
  "const app = express();",
  "",
  "app.use(express.json());",
  "app.use(express.urlencoded(\x7b extended: true \x7d));",
  "",
  "app.use(\"/health\", healthRouter);",
  "",
  "app.use(notFoundHandler);",
  "app.use(errorHandler);",
  "",
  "\x7b% if is_esm or is_typescript %\x7d",
  "export default app;",
  "\x7b% else %\x7d",
  "module.exports = app;",
  "\x7b% endif %\x7d"]

def serverCommonjsJavascript : List String := [
  "require(\"dotenv\").config();",
  "const app = require(\"./app\");",
  "\x7b% if has_orm and has_database %\x7d",
  "const \x7b connectDatabase \x7d = require(\"./db/client\");",
  "\x7b% endif %\x7d",
  "",
  "const PORT = Number(process.env.PORT) || 3000;",
  "",
  "async function main() \x7b",
  "\x7b% if has_orm and has_database %\x7d",
  "  await connectDatabase();",
  "\x7b% endif %\x7d",
  "  app.listen(PORT, () => \x7b",
  "    console.log(`\x7b\x7b project_name \x7d\x7d listening on port $\x7bPORT\x7d`);",
  "  \x7d);",
  "\x7d",
  "",
  "main().catch((err) => \x7b",
  "  console.error(err);",
  "  process.exit(1);",
  "\x7d);"]

def serverCommonjsTypescript : List String := [
  "import \"dotenv/config\";",
  "import app from \"./app\";",
  "\x7b% if has_orm and has_database %\x7d",
  "import \x7b connectDatabase \x7d from \"./db/client\";",
  "\x7b% endif %\x7d",
  "",
  "const PORT: number = Number(process.env.PORT) || 3000;",
  "",
  "async function main(): Promise<void> \x7b",
  "\x7b% if has_orm and has_database %\x7d",
  "  await connectDatabase();",
  "\x7b% endif %\x7d",
  "  app.listen(PORT, () => \x7b",
  "    console.log(`\x7b\x7b project_name \x7d\x7d listening on port $\x7bPORT\x7d`);",
  "  \x7d);",
  "\x7d",
  "",
  "main().catch((err: unknown) => \x7b",
  "  console.error(err);",
  "  process.exit(1);",
  "\x7d);"]

def serverEsmJavascript : List String := [
  "import \"dotenv/config\";",
  "import app from \"./app.js\";",
  "\x7b% if has_orm and has_database %\x7d",
  "import \x7b connectDatabase \x7d from \"./db/client.js\";",
  "\x7b% endif %\x7d",
  "",
  "const PORT = Number(process.env.PORT) || 3000;",
  "",
  "async function main() \x7b",
  "\x7b% if has_orm and has_database %\x7d",
  "  await connectDatabase();",
  "\x7b% endif %\x7d",
  "  app.listen(PORT, () => \x7b",
  "    console.log(`\x7b\x7b project_name \x7d\x7d listening on port $\x7bPORT\x7d`);",
  "  \x7d);",
  "\x7d",
  "",
  "main().catch((err) => \x7b",
  "  console.error(err);",
  "  process.exit(1);",
  "\x7d);"]

def serverEsmTypescript : List String := [
  "import \"dotenv/config\";",
  "import app from \"./app.js\";",
  "\x7b% if has_orm and has_database %\x7d",
  "import \x7b connectDatabase \x7d from \"./db/client.js\";",
  "\x7b% endif %\x7d",
  "",
  "const PORT: number = Number(process.env.PORT) || 3000;",
  "",
  "async function main(): Promise<void> \x7b",
  "\x7b% if has_orm and has_database %\x7d",
  "  await connectDatabase();",
  "\x7b% endif %\x7d",
  "  app.listen(PORT, () => \x7b",
  "    console.log(`\x7b\x7b project_name \x7d\x7d listening on port $\x7bPORT\x7d`);",
  "  \x7d);",
  "\x7d",
  "",
  "main().catch((err: unknown) => \x7b",
  "  console.error(err);",
  "  process.exit(1);",
  "\x7d);"]

/-- The templates by their paths below the root. -/
def templates : List (String × List String) := [
  ("base/gitignore.j2", gitignore),
  ("base/tsconfig.json.j2", tsconfig),
  ("controllers/healthController.j2", healthController),
  ("db/drizzle-client.j2", drizzleClient),
  ("db/mongoose-client.j2", mongooseClient),
  ("db/prisma-client.j2", prismaClient),
  ("db/prisma-schema.j2", prismaSchema),
  ("middleware/errorHandler.j2", errorHandler),
  ("middleware/notFoundHandler.j2", notFoundHandler),
  ("routes/health.j2", healthRoute),
  ("server/app.j2", app),
  ("server/commonjs-javascript.j2", serverCommonjsJavascript),
  ("server/commonjs-typescript.j2", serverCommonjsTypescript),
  ("server/esm-javascript.j2", serverEsmJavascript),
  ("server/esm-typescript.j2", serverEsmTypescript)]

/-- Where the templates are kept. -/
def root : Path := ⟨.root, ["usr", "share", "scaffold", "templates"]⟩

/-- A directory with all directories above it. -/
def withDirectory (s : Store) : Loc → Store
  | [] => s
  | name :: outer =>
    let s := withDirectory s outer
    if s.isDirectoryAt (name :: outer) then s else s.insert (name :: outer) .directory

def installOne (s : Store) (path : String) (lines : List String) : Store :=
  let loc := (root.child path).names.reverse
  (withDirectory s loc.tail).insert loc (.file (ofLines lines).toUTF8)

/-- A store with the templates in their places. -/
def install (s : Store) : Store :=
  templates.foldl (fun s (path, lines) => installOne s path lines) s

end Scaffold.Bundled
