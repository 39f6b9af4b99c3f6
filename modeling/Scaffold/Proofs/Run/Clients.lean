import Scaffold.Proofs.Environment.Assignments
import Scaffold.Proofs.Environment.Disclosure
import Scaffold.Proofs.Run.Models
import Scaffold.Proofs.Template.Client

/-!
# The database of a client

The clients for Mongoose and for Drizzle with SQLite know an address of the database themselves, in
case the environment has none. It is computed by their templates and again for the environment
files, and both come to the same, whatever the project is called (`client_agrees`).
-/

namespace Scaffold

open Store Template
open Run (World)

/-- A line of the text gives the variable this value. -/
def Assigns (text key value : String) : Prop :=
  ∃ before after, text = before ++ "\n" ++ (key ++ "=" ++ value) ++ "\n" ++ after

namespace Blueprint

def clientPath (b : Blueprint) : String := "src/db/client." ++ b.extension

/-- The client of the project knows an address itself. -/
def HasFallback (b : Blueprint) : Prop :=
  (b.database = .mongo ∧ b.orm = .mongoose) ∨ (b.database = .sqlite ∧ b.orm = .drizzle)

def ownAddress (b : Blueprint) : String := address b.database false false b.databaseName

def clientText (b : Blueprint) : String :=
  if b.database = .sqlite then
    fallingBack (drizzleHead b.isEsm b.isTypescript) b.ownAddress
      (drizzleTail b.isEsm b.isTypescript)
  else
    fallingBack (mongooseHead b.isEsm b.isTypescript) b.ownAddress
      (mongooseTail b.isEsm b.isTypescript)

def environmentText (b : Blueprint) (isExample : Bool) : String :=
  Variable.fileText (variablesOf b.database b.orm b.databaseName) isExample

end Blueprint

variable {b : Blueprint} {opts : Options} {world world' : World engine} {record : Record} {t : Task}
  {lib : Library engine} {s : Store}

/-- A task that is always done leaves what it is to put, made from the templates in their places. -/
theorem exists_demand (hs : world.store.IsPlain) (hroot : ".." ∉ b.site.root.names)
    (hbundled : world.library.HasBundled world.store)
    (h : Run.scaffold opts b Recipe.standard world = (.ok record, world')) (ht : t ∈ b.tasks)
    (hn : t.optional = false) : ∃ w e, w.library.HasBundled w.store ∧
      b.site.demand? w t.command = some (t.path, e) ∧
      world'.store.at? (t.loc b.site) = some e := by
  have hr := site_root_isPlain b hroot
  have htidy := tasks_areTidy b b.site
  obtain ⟨-, hprogress, -⟩ := scaffold_ok_iff.mp h
  have hrun := runAll_of_progress hprogress
  have hsteady : ∀ t ∈ b.tasks, b.site.IsSteady world.library world.store t.command := fun t ht =>
    isSteady_of_mem hbundled hs (defaults_areAkin rfl).left ht
  have hsettled := runAll_settles hr htidy hs hbundled.current hsteady hrun
  obtain ⟨e, hdemand, hthere, -⟩ := (hsettled t ht).done hn
  exact ⟨_, e, hasBundled_runAll hr htidy hs hbundled hrun, hdemand, hthere⟩

/-! ## Environment files -/

theorem environment_tasks (b : Blueprint) :
    (Recipe.environment.script b).tasks =
      [⟨.writeFile ".env" (b.environmentText false), ".env", rfl, false⟩,
        ⟨.writeFile ".env.example" (b.environmentText true), ".env.example", rfl, false⟩] := by
  rw [b.writesEnvironment]
  rfl

theorem mem_tasks_of_environment (ht : t ∈ (Recipe.environment.script b).tasks) : t ∈ b.tasks :=
  List.mem_flatMap.mpr ⟨Recipe.environment, by simp [Recipe.standard], ht⟩

theorem assigns_fileText {front : List Variable} (v : Variable) (back : List Variable)
    (hfront : front ≠ []) (isExample : Bool) :
    Assigns (Variable.fileText (front ++ v :: back) isExample) v.key (v.given isExample) := by
  have hlines : ∀ v : Variable, ∃ remark, v.lines isExample =
      remark ++ (v.key ++ "=" ++ v.given isExample) :: [""] := fun v => ⟨_, rfl⟩
  obtain ⟨remark, hv⟩ := hlines v
  obtain ⟨first, front, rfl⟩ := List.exists_cons_of_ne_nil hfront
  obtain ⟨firstRemark, hfirst⟩ := hlines first
  have htext : Variable.fileText (first :: front ++ v :: back) isExample =
      "\n".intercalate (((if isExample then Variable.header else []) ++
        (first :: front).flatMap (Variable.lines isExample) ++ remark) ++
        (v.key ++ "=" ++ v.given isExample) ::
          ("" :: back.flatMap (Variable.lines isExample))) := by
    simp [Variable.fileText, hv, List.flatMap_append]
  have hassoc : ∀ x y z : String, x ++ "\n" ++ (y ++ "\n" ++ z) = x ++ "\n" ++ y ++ "\n" ++ z :=
    fun x y z => by simp only [String.append_assoc]
  rw [htext, String.intercalate_append_of_ne_nil (by simp [hfirst]) (by simp),
    String.intercalate_cons_of_ne_nil (by simp)]
  exact ⟨_, _, hassoc _ _ _⟩

/-- One variable gives the address, and each environment file has it in a line of its own. -/
theorem environment_address (hd : b.database ≠ .absent) (horm : b.orm ≠ .prisma) :
    ∃ v, (Blueprint.variablesOf b.database b.orm b.databaseName).filter
        (·.key = "DATABASE_URL") = [v] ∧
      b.databaseUrl false false = .ok v.value ∧ b.databaseUrl true false = .ok v.example ∧
      v.value = b.ownAddress ∧ Assigns (b.environmentText false) "DATABASE_URL" v.value ∧
      Assigns (b.environmentText true) "DATABASE_URL" v.example := by
  obtain ⟨front, hvars, hfront, hkeys⟩ : ∃ front : List Variable,
      Blueprint.variablesOf b.database b.orm b.databaseName =
        front ++ [Blueprint.addressVariable b.database "DATABASE_URL" "Database connection string"
          false b.databaseName] ∧ front ≠ [] ∧ ∀ v ∈ front, v.key ≠ "DATABASE_URL" := by
    rw [Blueprint.variablesOf, if_neg hd, if_neg horm]
    exact ⟨_, rfl, by simp, by simp⟩
  have hassigns := assigns_fileText (Blueprint.addressVariable b.database "DATABASE_URL"
    "Database connection string" false b.databaseName) [] hfront
  rw [← hvars] at hassigns
  refine ⟨_, ?_, Blueprint.databaseUrl_eq hd, Blueprint.databaseUrl_eq hd, rfl, hassigns false,
    hassigns true⟩
  have hnone : front.filter (·.key = "DATABASE_URL") = [] :=
    List.filter_eq_nil_iff.mpr fun v hv => by simpa using hkeys v hv
  rw [hvars, List.filter_append, hnone]
  rfl

/-! ## Clients -/

theorem notMem_databaseName (b : Blueprint) {c : Char} (hword : Text.isWordSeparator c = false)
    (hc : isLowerOrDigit c = false) (hline : c ≠ '_') : c ∉ b.databaseName.toList := by
  rw [Blueprint.toList_databaseName, Blueprint.spelledName, List.mem_map]
  rintro ⟨d, hd, hdc⟩
  split at hdc
  · exact hline hdc.symm
  · subst hdc
    rw [name_chars b d hd hword] at hc
    cases hc

theorem ownAddress_mongo (hb : b.database = .mongo) :
    b.ownAddress = mongoAddress ++ databaseNamed b.name := by
  rw [Blueprint.ownAddress, hb, Blueprint.address, if_neg (by decide), if_neg (by decide),
    String.append_empty]
  rfl

theorem ownAddress_sqlite (hb : b.database = .sqlite) : b.ownAddress = "file:./dev.db" := by
  rw [Blueprint.ownAddress, hb]
  rfl

theorem render_mongooseClient (hb : b.database = .mongo) (h : lib.HasBundled s) :
    (lib.render s "db/mongoose-client.j2" b.site.defaults).1 = .ok b.clientText := by
  have hmem : ("db/mongoose-client.j2", Bundled.mongooseClient) ∈ Bundled.templates := by
    simp [Bundled.templates]
  refine render_of_compile h hmem compile_mongooseClient (by decide) ?_
  rw [meaning_mongooseTree ((lookup_defaults b _).trans rfl)
    ((lookup_defaults b _).trans rfl) ((lookup_defaults b _).trans rfl), Blueprint.clientText,
    if_neg (by rw [hb]; decide), ownAddress_mongo hb]

theorem render_drizzleClient (hb : b.database = .sqlite) (h : lib.HasBundled s) :
    (lib.render s "db/drizzle-client.j2" b.site.defaults).1 = .ok b.clientText := by
  have hmem : ("db/drizzle-client.j2", Bundled.drizzleClient) ∈ Bundled.templates := by
    simp [Bundled.templates]
  have hword : b.site.defaults.lookup "database" = some (.str "sqlite") := by
    rw [lookup_defaults]
    exact congrArg (fun d => some (Value.str (Choice.word d))) hb
  refine render_of_compile h hmem compile_drizzleClient (by decide) ?_
  rw [meaning_drizzleTree ((lookup_defaults b _).trans rfl)
    ((lookup_defaults b _).trans rfl) hword, Blueprint.clientText, if_pos hb, ownAddress_sqlite hb]

/-- The client falls back to the address of the project's database and to no other. -/
theorem fallsBackTo_clientText (hb : b.HasFallback) {url : String} :
    FallsBackTo b.clientText url ↔ url = b.ownAddress := by
  rw [Blueprint.clientText]
  rcases hb with ⟨hb, -⟩ | ⟨hb, -⟩
  · rw [if_neg (by rw [hb]; decide), ownAddress_mongo hb]
    exact fallsBackTo_mongoose (notMem_databaseName b rfl (by decide) (by decide))
      (notMem_databaseName b rfl (by decide) (by decide))
  · rw [if_pos hb, ownAddress_sqlite hb]
    exact fallsBackTo_drizzle

/-- The client is rendered from the template of the ORM, and is among the tasks. -/
theorem client_rendered (hb : b.HasFallback) : ∃ template, b.clientTemplate? = some template ∧
    (∀ (lib : Library engine) (s : Store), lib.HasBundled s →
      (lib.render s template b.site.defaults).1 = .ok b.clientText) ∧
    ⟨Recipe.renderedByDefault template b.clientPath, b.clientPath, rfl, false⟩ ∈ b.tasks := by
  have hmem : ∀ template, b.clientTemplate? = some template → b.orm ≠ .prisma →
      b.hasDatabase = true →
      ⟨Recipe.renderedByDefault template b.clientPath, b.clientPath, rfl, false⟩ ∈ b.tasks := by
    intro template htemplate horm hd
    have hscript : Recipe.databaseClient.script b =
        .step (Recipe.renderedByDefault template b.clientPath) .done := by
      simp only [Recipe.databaseClient, htemplate, hd, Bool.not_true, Bool.false_eq_true,
        if_false, if_neg horm]
      rfl
    refine List.mem_flatMap.mpr ⟨Recipe.databaseClient, by simp [Recipe.standard], ?_⟩
    rw [hscript, tasks_step rfl]
    exact List.mem_cons_self
  rcases hb with ⟨hd, ho⟩ | ⟨hd, ho⟩
  · have htemplate : b.clientTemplate? = some "db/mongoose-client.j2" := by
      rw [Blueprint.clientTemplate?, ho]
      rfl
    exact ⟨_, htemplate, fun _ _ h => render_mongooseClient hd h,
      hmem _ htemplate (by rw [ho]; decide) (by rw [Blueprint.hasDatabase, hd]; rfl)⟩
  · have htemplate : b.clientTemplate? = some "db/drizzle-client.j2" := by
      rw [Blueprint.clientTemplate?, ho]
      rfl
    exact ⟨_, htemplate, fun _ _ h => render_drizzleClient hd h,
      hmem _ htemplate (by rw [ho]; decide) (by rw [Blueprint.hasDatabase, hd]; rfl)⟩

/-- What a run that goes through leaves for the database. -/
structure LeavesDatabase (b : Blueprint) (s : Store) (client real sample : String) : Prop where
  client : s.at? (b.site.locate b.clientPath).loc = some (.file client.toUTF8)
  real : s.at? (b.site.locate ".env").loc = some (.file real.toUTF8)
  sample : s.at? (b.site.locate ".env.example").loc = some (.file sample.toUTF8)

theorem leavesDatabase (hb : b.HasFallback) (hs : world.store.IsPlain)
    (hroot : ".." ∉ b.site.root.names) (hbundled : world.library.HasBundled world.store)
    (h : Run.scaffold opts b Recipe.standard world = (.ok record, world')) :
    LeavesDatabase b world'.store b.clientText (b.environmentText false)
      (b.environmentText true) := by
  obtain ⟨template, -, hrender, hclient⟩ := client_rendered hb
  have hfile : ∀ (path content : String)
      (hp : (Command.writeFile path content).destination? = some path),
      ⟨.writeFile path content, path, hp, false⟩ ∈ b.tasks →
      world'.store.at? (b.site.locate path).loc = some (.file content.toUTF8) := by
    intro path content hp ht
    obtain ⟨w, e, -, hdemand, hthere⟩ := exists_demand hs hroot hbundled h ht rfl
    have hfile : b.site.demand? w (.writeFile path content) = some (path, .file content.toUTF8) :=
      demand?_of_order rfl
    cases hdemand.symm.trans hfile
    exact hthere
  refine ⟨?_, hfile _ _ rfl (mem_tasks_of_environment ?_),
    hfile _ _ rfl (mem_tasks_of_environment ?_)⟩
  · obtain ⟨w, e, hw, hdemand, hthere⟩ := exists_demand hs hroot hbundled h hclient rfl
    cases hdemand.symm.trans (demand?_of_render (hrender _ _ hw))
    exact hthere
  · rw [environment_tasks]
    exact List.mem_cons_self
  · rw [environment_tasks]
    exact List.mem_cons_of_mem _ List.mem_cons_self

/-- **A client and the environment files name the same database.** For every project with Mongoose
and MongoDB, or with Drizzle and SQLite, whatever it is called and in whatever style it is written:
the bundled template renders, and a run that goes through leaves what was rendered. In it one
address and no other is taken if the environment has none, the one that the environment file gives
for it; and with SQLite the example file gives it too. -/
theorem client_agrees (hb : b.HasFallback) : ∃ (template client : String) (vars : List Variable)
    (v : Variable), b.clientTemplate? = some template ∧
    (∀ (lib : Library engine) (s : Store), lib.HasBundled s →
      (lib.render s template b.site.defaults).1 = .ok client) ∧
    b.environment = .ok vars ∧ vars.filter (·.key = "DATABASE_URL") = [v] ∧
    (∀ opts world record world', world.store.IsPlain → ".." ∉ b.site.root.names →
      world.library.HasBundled world.store →
      Run.scaffold opts b Recipe.standard world = (.ok record, world') →
      LeavesDatabase b world'.store client (Variable.fileText vars false)
        (Variable.fileText vars true)) ∧
    (∀ url, FallsBackTo client url ↔ url = v.value) ∧
    b.databaseUrl false false = .ok v.value ∧
    Assigns (Variable.fileText vars false) "DATABASE_URL" v.value ∧
    (b.database = .sqlite → b.databaseUrl true false = .ok v.value ∧
      Assigns (Variable.fileText vars true) "DATABASE_URL" v.value) := by
  obtain ⟨template, htemplate, hrender, -⟩ := client_rendered hb
  have hd : b.database ≠ .absent ∧ b.orm ≠ .prisma := by
    rcases hb with ⟨hd, ho⟩ | ⟨hd, ho⟩ <;> rw [hd, ho] <;> decide
  obtain ⟨v, hone, hurl, hsample, hvalue, hreal, hexample⟩ := environment_address hd.1 hd.2
  refine ⟨template, b.clientText, _, v, htemplate, hrender, Blueprint.environment_eq, hone,
    fun _ _ _ _ hs hroot hbundled h => leavesDatabase hb hs hroot hbundled h, fun url => ?_, hurl,
    hreal, fun hsqlite => ?_⟩
  · rw [fallsBackTo_clientText hb, hvalue]
  · have hsame : v.example = v.value := by
      have hlocal : b.databaseUrl true false = .ok "file:./dev.db" := by
        rw [Blueprint.databaseUrl, if_pos hsqlite]
        rfl
      rw [hvalue, ownAddress_sqlite hsqlite]
      exact Except.ok.inj (hsample.symm.trans hlocal)
    rw [← hsame]
    exact ⟨hsample, hexample⟩

def mongoProject : Blueprint :=
  ⟨⟨"my-2nd-app", .javascript, .commonjs, .mongo, .mongoose, "/srv/new"⟩, by decide⟩

def sqliteProject : Blueprint :=
  ⟨⟨"box", .typescript, .esm, .sqlite, .drizzle, "/srv/new"⟩, by decide⟩

/-- A run for a project goes through, and its client falls back to the address that the environment
file gives, and with SQLite the example file too. -/
def GetsAddress (b : Blueprint) (url : String) : Prop :=
  ∃ record after, Run.scaffold .default b Recipe.standard freeWorld = (.ok record, after) ∧
    ∃ client real sample : String, LeavesDatabase b after.store client real sample ∧
      (∀ u, FallsBackTo client u ↔ u = url) ∧ Assigns real "DATABASE_URL" url ∧
      (b.database = .sqlite → Assigns sample "DATABASE_URL" url)

theorem client_agrees_of_two :
    (mongoProject.HasFallback ∧ GetsAddress mongoProject "mongodb://localhost:27017/my_2nd_app") ∧
      sqliteProject.HasFallback ∧ GetsAddress sqliteProject "file:./dev.db" := by
  have hplain : ∀ c ∈ freeBlueprint.site.root.text.toList, Markup.Tag.IsPlainChar c :=
    Markup.Tag.isPlainChar_of_all (by decide)
  have hgets : ∀ (b : Blueprint) (url : String), b.site.root = freeBlueprint.site.root →
      b.HasFallback → b.databaseUrl false false = .ok url → GetsAddress b url := by
    intro b url hroot hb hown
    have hfresh : IsFresh b freeWorld := isFresh_of_root hroot
    obtain ⟨record, after, hrun⟩ := hfresh.exists_ok .default (by rwa [hroot])
    obtain ⟨_, client, vars, v, -, -, -, -, hleaves, hfalls, hurl, hreal, hsample⟩ :=
      client_agrees hb
    have hv : v.value = url := Except.ok.inj (hurl.symm.trans hown)
    rw [hv] at hfalls hreal hsample
    exact ⟨record, after, hrun, client, _, _,
      hleaves _ _ _ _ hfresh.plain hfresh.inward hfresh.bundled hrun, hfalls, hreal,
      fun h => (hsample h).2⟩
  have hmongo : mongoProject.HasFallback := .inl ⟨rfl, rfl⟩
  have hsqlite : sqliteProject.HasFallback := .inr ⟨rfl, rfl⟩
  exact ⟨⟨hmongo, hgets _ _ rfl hmongo (by decide)⟩, hsqlite, hgets _ _ rfl hsqlite rfl⟩

end Scaffold
