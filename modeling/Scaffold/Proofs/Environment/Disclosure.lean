import Scaffold.Recipe.Standard

/-!
# What environment files tell

The example file is for everyone: it is settled by the database and the ORM, and two projects that
agree in these have the same one. The other file names the project's database where the database has
a server, so there two projects that agree in both have the same file just when the names of their
databases are the same (`writesEnvironment_pair`).
-/

namespace Scaffold

/-- Databases that are reached at an address which names them. -/
def Database.HasServer (d : Database) : Prop := d = .postgres ∨ d = .mysql ∨ d = .mongo

theorem Database.hasServer_iff {d : Database} : d.HasServer ↔ d ≠ .sqlite ∧ d ≠ .absent := by
  cases d <;> simp [HasServer]

namespace Blueprint

/-- The name of a project with low lines for hyphens, character by character. -/
def spelledName (b : Blueprint) : List Char := b.name.toList.map fun c => if c = '-' then '_' else c

/-- The recipe for environment files writes these two and does nothing else. -/
def WritesEnvironment (b : Blueprint) (real sample : String) : Prop :=
  Recipe.environment.script b = .ofCommands [
    .writeFile ".env" real,
    .writeFile ".env.example" sample]

variable {b c : Blueprint} {d : Database} {orm : Orm} {isExample isShadow : Bool}

theorem toList_databaseName : b.databaseName.toList = b.spelledName := by
  rw [databaseName, String.toList_ofList, Text.replace_char]
  rfl

theorem databaseName_inj : b.databaseName = c.databaseName ↔ b.spelledName = c.spelledName := by
  rw [← toList_databaseName, ← toList_databaseName, String.toList_inj]

/-- What stands in a connection string before the name of the database. -/
def serverAddress (d : Database) (isExample : Bool) : String :=
  match d with
  | .postgres =>
    "postgresql://postgres:" ++ (if isExample then "pass123" else "postgres") ++ "@localhost:5432/"
  | .mysql => "mysql://root:" ++ (if isExample then "pass123" else "root") ++ "@localhost:3306/"
  | .mongo => "mongodb://localhost:27017/"
  | .sqlite | .absent => ""

def address (d : Database) (isExample isShadow : Bool) (name : String) : String :=
  if d = .sqlite then (if isShadow then "file:./shadow.db" else "file:./dev.db")
  else serverAddress d isExample ++ (name ++ if isShadow then "_shadow" else "")

def addressVariable (d : Database) (key comment : String) (isShadow : Bool) (name : String) :
    Variable :=
  ⟨key, address d false isShadow name, address d true isShadow "mydb", some comment⟩

/-- The variables of a project by its database, its ORM and the name of its database. -/
def variablesOf (d : Database) (orm : Orm) (name : String) : List Variable :=
  [⟨"NODE_ENV", "development", "development",
      some "Application environment (development, production, test)"⟩,
    ⟨"PORT", "3000", "3000", some "The port the server listens on"⟩] ++
  if d = .absent then []
  else addressVariable d "DATABASE_URL" "Database connection string" false name ::
    if orm = .prisma then [addressVariable d "SHADOW_DATABASE_URL"
      "Prisma shadow database for safe migrations (dev only)" true name]
    else []

theorem serverUrl?_eq (h : d.HasServer) (name : String) :
    d.serverUrl? name isExample = some (serverAddress d isExample ++ name) := by
  rcases h with rfl | rfl | rfl <;> rfl

theorem databaseUrl_eq (h : b.database ≠ .absent) : b.databaseUrl isExample isShadow =
    .ok (address b.database isExample isShadow (if isExample then "mydb" else b.databaseName)) := by
  unfold databaseUrl address
  by_cases hsqlite : b.database = .sqlite
  · rw [if_pos hsqlite, if_pos hsqlite]
  · rw [if_neg hsqlite, if_neg hsqlite]
    simp only [serverUrl?_eq (Database.hasServer_iff.mpr ⟨hsqlite, h⟩)]
    cases isShadow <;> simp

theorem urlVariable_eq (h : b.database ≠ .absent) (key comment : String) :
    b.urlVariable key comment isShadow =
      .ok (addressVariable b.database key comment isShadow b.databaseName) := by
  rw [urlVariable, databaseUrl_eq h, databaseUrl_eq h]
  rfl

/-- A project always has variables, and only three things about it settle them. -/
theorem environment_eq : b.environment = .ok (variablesOf b.database b.orm b.databaseName) := by
  unfold environment variablesOf
  by_cases habsent : b.database = .absent
  · simp [hasDatabase, habsent]
  · simp only [urlVariable_eq habsent]
    by_cases hprisma : b.orm = .prisma <;> simp [hasDatabase, habsent, hprisma, bind, Except.bind]

theorem variablesOf_of_local (h : ¬ d.HasServer) {m n : String} :
    variablesOf d orm m = variablesOf d orm n := by
  have hlocal : d = .sqlite ∨ d = .absent := by
    rw [Database.hasServer_iff] at h
    cases d <;> simp_all
  rcases hlocal with rfl | rfl <;> rfl

/-! ## The two files -/

theorem writesEnvironment : b.WritesEnvironment
    (Variable.fileText (variablesOf b.database b.orm b.databaseName) false)
    (Variable.fileText (variablesOf b.database b.orm b.databaseName) true) := by
  unfold WritesEnvironment Recipe.environment
  simp only [environment_eq]

theorem flatMap_lines_sample (m n : String) : (variablesOf d orm m).flatMap (Variable.lines true) =
    (variablesOf d orm n).flatMap (Variable.lines true) := by
  unfold variablesOf
  split
  · rfl
  · split <;> rfl

theorem eq_of_append_eq {m n x y : String} (h : m ++ x = n ++ y) (hlength : m.length = n.length) :
    m = n := by
  have htext := congrArg String.toList h
  simp only [String.toList_append] at htext
  exact String.toList_inj.mp (List.append_inj htext hlength).1

/-- Where the database has a server, its name can be made out in the file, also if a shadow
database repeats it. -/
theorem fileText_inj (h : d.HasServer) {m n : String} :
    Variable.fileText (variablesOf d orm m) false = Variable.fileText (variablesOf d orm n) false ↔
      m = n := by
  refine ⟨fun he => ?_, fun he => he ▸ rfl⟩
  obtain ⟨hsqlite, habsent⟩ := Database.hasServer_iff.mp h
  simp only [Variable.fileText, variablesOf, if_neg habsent, addressVariable, address,
    if_neg hsqlite] at he
  by_cases hprisma : orm = .prisma
  · -- What both files hold before the name and behind it has the same length in both.
    simp [hprisma, Variable.lines, String.intercalate_cons_cons, String.append_assoc] at he
    have hlength := congrArg String.length he
    simp only [String.length_append] at hlength
    exact eq_of_append_eq he (by omega)
  · simpa [hprisma, Variable.lines, String.intercalate_cons_cons, String.append_assoc] using he

/-- **Example files tell nothing about a project.** Two projects with the same database and the same
ORM have the same example file. Their other files are the same just when the names are, up to
hyphens and low lines; and always, if the database has no server. -/
theorem writesEnvironment_pair (hdatabase : b.database = c.database) (horm : b.orm = c.orm) :
    ∃ real real' sample, b.WritesEnvironment real sample ∧ c.WritesEnvironment real' sample ∧
      (real = real' ↔ (b.database.HasServer → b.spelledName = c.spelledName)) := by
  have hb := b.writesEnvironment
  have hc := c.writesEnvironment
  rw [← hdatabase, ← horm] at hc
  have hsample : Variable.fileText (variablesOf b.database b.orm c.databaseName) true =
      Variable.fileText (variablesOf b.database b.orm b.databaseName) true :=
    congrArg (fun ls => "\n".intercalate (Variable.header ++ ls)) (flatMap_lines_sample _ _)
  rw [hsample] at hc
  refine ⟨_, _, _, hb, hc, ?_⟩
  by_cases hserver : b.database.HasServer
  · rw [fileText_inj hserver, databaseName_inj]
    exact ⟨fun he _ => he, fun he => he hserver⟩
  · exact ⟨fun _ hs => absurd hs hserver,
      fun _ => congrArg (fun vars => Variable.fileText vars false) (variablesOf_of_local hserver)⟩

def hyphenProject : Blueprint :=
  ⟨⟨"my-app", .typescript, .esm, .postgres, .prisma, "/srv/app"⟩, by decide⟩

def lowLineProject : Blueprint :=
  ⟨⟨"my_app", .javascript, .commonjs, .postgres, .prisma, "/opt"⟩, by decide⟩

def shadowProject : Blueprint :=
  ⟨⟨"my_app_shadow", .javascript, .esm, .postgres, .prisma, "/srv/app"⟩, by decide⟩

theorem writesEnvironment_pair_of_three :
    (∃ real sample, hyphenProject.WritesEnvironment real sample ∧
      lowLineProject.WritesEnvironment real sample) ∧
    ∃ real real' sample, hyphenProject.WritesEnvironment real sample ∧
      shadowProject.WritesEnvironment real' sample ∧ real ≠ real' := by
  constructor
  · obtain ⟨real, real', sample, hb, hc, hiff⟩ :=
      writesEnvironment_pair (b := hyphenProject) (c := lowLineProject) rfl rfl
    have hsame : real = real' := hiff.mpr fun _ => by decide
    exact ⟨real, sample, hb, hsame ▸ hc⟩
  · obtain ⟨real, real', sample, hb, hc, hiff⟩ :=
      writesEnvironment_pair (b := hyphenProject) (c := shadowProject) rfl rfl
    have hnames : hyphenProject.spelledName ≠ shadowProject.spelledName := by decide
    exact ⟨real, real', sample, hb, hc, fun he => hnames (hiff.mp he (.inl rfl))⟩

end Blueprint
end Scaffold
