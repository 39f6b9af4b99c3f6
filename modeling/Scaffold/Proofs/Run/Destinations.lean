import Mathlib.Data.List.Nodup
import Scaffold.Proofs.Path.Fitting
import Scaffold.Proofs.Run.Tasks
import Scaffold.Proofs.Template.Current

/-!
# Where projects lie

Whatever is chosen, the tasks of a project are for paths of one short list, each once
(`tasks_sublist`, `destinations_check`). In these paths a name has a dot if and only if it is a
file's, so no file ever stands where a directory is needed (`IsDestination`). None is the name of a
template.
-/

namespace Scaffold

open Template

def isDotted (name : String) : Bool := name.toList.contains '.'

/-- A path inside a project that is short, and dotted only at the name of a file. -/
structure IsDestination (path : String) (folder : Bool) : Prop where
  inner : IsInner path
  noNul : (Path.ofString path).hasNul = false
  span : Path.span (Path.ofString path).names ≤ 35
  names : ∀ name ∈ (Path.ofString path).names,
    name.utf8ByteSize ≤ Store.nameLimit ∧ ¬ IsTemplateName name
  outer : ∀ name ∈ (Path.ofString path).names.dropLast, isDotted name = false
  last : (Path.ofString path).names.getLast?.map isDotted = some (!folder)

/-- The characters of a path that stays inside. -/
def SpellsInner (cs : List Char) : Prop :=
  Path.anchorOf cs = .relative ∧ ['.', '.'] ∉ Path.named cs

/-- The characters of a path inside a project, see `IsDestination`. -/
def SpellsDestination (cs : List Char) (folder : Bool) : Prop :=
  SpellsInner cs ∧ Path.span ((Path.named cs).map String.ofList) ≤ 35 ∧
    (∀ name ∈ Path.named cs, '\x00' ∉ name ∧
      (String.ofList name).utf8ByteSize ≤ Store.nameLimit ∧ ¬ ['.', 'j', '2'] <:+ name) ∧
    (∀ name ∈ (Path.named cs).dropLast, name.contains '.' = false) ∧
    (Path.named cs).getLast?.map (·.contains '.') = some (!folder)

instance (cs : List Char) : Decidable (SpellsInner cs) := by unfold SpellsInner; infer_instance

instance (cs : List Char) (folder : Bool) : Decidable (SpellsDestination cs folder) := by
  unfold SpellsDestination; infer_instance

section

variable {cs : List Char} {folder : Bool} {css css' : List (List Char)}
  {folders files : List String}

theorem isInner_ofList (h : SpellsInner cs) : IsInner (String.ofList cs) := by
  rw [IsInner, Path.ofString_ofList]
  refine ⟨h.1, fun hmem => h.2 ?_⟩
  exact (List.mem_map_of_injective fun _ _ => String.ofList_injective).mp hmem

theorem isDestination_ofList (h : SpellsDestination cs folder) :
    IsDestination (String.ofList cs) folder := by
  obtain ⟨hinner, hspan, hnames, houter, hlast⟩ := h
  have hdotted : ∀ name : List Char, isDotted (String.ofList name) = name.contains '.' := by
    intro name
    rw [isDotted, String.toList_ofList]
  constructor
  · exact isInner_ofList hinner
  · rw [Path.hasNul, Path.names_ofList, List.any_map, List.any_eq_false]
    intro name hname
    simpa using (hnames name hname).1
  · rwa [Path.names_ofList]
  · rw [Path.names_ofList]
    refine List.forall_mem_map.mpr fun name hname => ?_
    rw [IsTemplateName, String.toList_ofList]
    exact (hnames name hname).2
  · rw [Path.names_ofList, ← List.map_dropLast]
    exact List.forall_mem_map.mpr fun name hname => (hdotted name).trans (houter name hname)
  · rw [Path.names_ofList, List.getLast?_map, Option.map_map, ← hlast]
    exact congrArg (Option.map · _) (funext hdotted)

theorem forall_isDestination (hfolders : Spells folders css) (hfiles : Spells files css')
    (h : (∀ cs ∈ css, SpellsDestination cs true) ∧ (∀ cs ∈ css', SpellsDestination cs false) ∧
      ((css ++ css').map Path.named).Nodup) :
    (∀ d ∈ folders.map (·, true) ++ files.map (·, false), IsDestination d.1 d.2) ∧
      ((folders.map (·, true) ++ files.map (·, false)).map fun d =>
        (Path.ofString d.1).names).Nodup := by
  obtain ⟨hdirectories, hnamed, hnodup⟩ := h
  rw [hfolders.eq_map, hfiles.eq_map]
  constructor
  · simp only [List.forall_mem_append, List.forall_mem_map]
    exact ⟨fun cs hcs => isDestination_ofList (hdirectories cs hcs),
      fun cs hcs => isDestination_ofList (hnamed cs hcs)⟩
  · have hread : ∀ folder : Bool, ((fun d : String × Bool => (Path.ofString d.1).names) ∘
        (·, folder)) ∘ String.ofList = List.map String.ofList ∘ Path.named :=
      fun folder => funext Path.names_ofList
    rw [List.map_append, List.map_map, List.map_map, List.map_map, List.map_map, hread, hread,
      ← List.map_append, ← List.map_map]
    exact hnodup.map (List.map_injective_iff.mpr fun _ _ => String.ofList_injective)

end

def folderPaths : List String := [
  "src", "src/config", "src/routes", "src/controller", "src/middlewares", "src/services",
  "src/models", "src/db", "docs"]

def filePaths (extension : String) : List String := [
  "package.json", ".env", ".env.example", ".gitignore", "tsconfig.json",
  "src/app." ++ extension, "src/server." ++ extension,
  "src/middlewares/errorHandler." ++ extension, "src/middlewares/notFoundHandler." ++ extension,
  "src/routes/health." ++ extension, "src/controllers/healthController." ++ extension,
  "src/db/client." ++ extension, Recipe.schemaPath]

/-- The paths of a project; the second part says whether it is a directory's. -/
def destinations (extension : String) : List (String × Bool) :=
  folderPaths.map (·, true) ++ (filePaths extension).map (·, false)

def Command.isFolder : Command → Bool
  | .createDirectory _ => true
  | _ => false

/-- The path of a task, and whether a directory is to stand there. -/
def Task.destination (t : Task) : String × Bool := (t.path, t.command.isFolder)

/-- Nothing is read for the command but templates. -/
def Command.ReadsTemplates : Command → Prop
  | .renderTemplate template _ _ => IsTemplatePath template
  | .copyStatic _ _ => False
  | _ => True

variable {b : Blueprint}

theorem extension_cases (b : Blueprint) : b.extension = "ts" ∨ b.extension = "js" := by
  unfold Blueprint.extension
  split
  · exact .inl rfl
  · exact .inr rfl

theorem destinations_check (b : Blueprint) :
    (∀ d ∈ destinations b.extension, IsDestination d.1 d.2) ∧
      ((destinations b.extension).map fun d => (Path.ofString d.1).names).Nodup := by
  rcases extension_cases b with h | h
  -- the paths are spelled out first, so that only characters are left to be read
  all_goals
    rw [h, destinations]
    apply forall_isDestination
    · rw [folderPaths]
      repeat' first | exact .nil | apply Spells.cons rfl
    · simp only [filePaths, String.reduceAppend, Recipe.schemaPath]
      repeat' first | exact .nil | apply Spells.cons rfl
    · decide +kernel

/-! ## The tasks -/

theorem folders_tasks (b : Blueprint) :
    ((Recipe.folders.script b).tasks.map Task.destination).Sublist
      (folderPaths.map (·, true)) := by
  have hpaths : b.requiredFolders.Sublist folderPaths := (List.filter_sublist).map Folder.path
  have hmap : ∀ paths : List String,
      ((Script.ofCommands (paths.map .createDirectory)).tasks.map Task.destination) =
        paths.map (·, true) := by
    intro paths
    induction paths with
    | nil => rfl
    | cons p paths ih =>
      rw [List.map_cons, List.map_cons, ← ih]
      rfl
  rw [Recipe.folders, hmap]
  exact hpaths.map _

theorem databaseClient_tasks (b : Blueprint) :
    ((Recipe.databaseClient.script b).tasks.map Task.destination).Sublist
      [("src/db/client." ++ b.extension, false), (Recipe.schemaPath, false)] := by
  simp only [Recipe.databaseClient]
  split
  · simp [Script.tasks]
  · split
    · simp [Script.tasks]
    · split
      · exact List.Sublist.refl _
      · exact List.Sublist.cons_cons _ (List.nil_sublist _)

theorem tasks_sublist (b : Blueprint) :
    (b.tasks.map Task.destination).Sublist (destinations b.extension) := by
  obtain ⟨vars, hvars⟩ := environment_ok b
  have henvironment : (Recipe.environment.script b).tasks.map Task.destination =
      [(".env", false), (".env.example", false)] := by
    simp only [Recipe.environment, hvars]
    rfl
  have htsconfig : ((Recipe.tsconfig.script b).tasks.map Task.destination).Sublist
      [("tsconfig.json", false)] := by
    simp only [Recipe.tsconfig]
    split
    · exact List.Sublist.refl _
    · exact List.nil_sublist _
  have hlast : ((Recipe.server.script b).tasks.map Task.destination ++
      ((Recipe.middleware.script b).tasks.map Task.destination ++
      ((Recipe.routes.script b).tasks.map Task.destination ++
      ((Recipe.databaseClient.script b).tasks.map Task.destination ++ [])))).Sublist
      (((filePaths b.extension).drop 5).map (·, false)) := by
    rw [List.append_nil]
    exact (((databaseClient_tasks b).append_left _).append_left _).append_left _
  have hmiddle := (htsconfig.append hlast).append_left
    (((Recipe.packageManifest.script b).tasks ++ (Recipe.environment.script b).tasks ++
      (Recipe.gitignore.script b).tasks).map Task.destination)
  have hall := (folders_tasks b).append hmiddle
  simp only [List.map_append, henvironment, List.append_assoc] at hall
  simp only [Blueprint.tasks, Recipe.standard, List.flatMap_cons, List.flatMap_nil,
    List.map_append, henvironment, List.map_nil]
  exact hall

/-- A field that holds a flag or a word, and not under the name of the template itself. -/
def isPlainField (field : String × Json) : Bool :=
  field.1 ≠ selfName && match field.2 with
    | .bool _ | .str _ => true
    | _ => false

theorem forall_ofCommands {P : Command → Prop} {cs : List Command}
    (h : ∀ c ∈ cs, c.destination?.isSome ∧ P c) :
    ∀ t ∈ (Script.ofCommands cs).tasks, P t.command := by
  induction cs with
  | nil => nofun
  | cons c cs ih =>
    obtain ⟨hdest, hc⟩ := h c List.mem_cons_self
    obtain ⟨path, hpath⟩ := Option.isSome_iff_exists.mp hdest
    have hstep : (Script.ofCommands (c :: cs)).tasks =
        ⟨c, path, hpath, false⟩ :: (Script.ofCommands cs).tasks := tasks_step hpath _
    rw [hstep]
    exact List.forall_mem_cons.mpr ⟨hc, ih fun d hd => h d (List.mem_cons_of_mem _ hd)⟩

def templateNames : List String := Bundled.templates.map (·.1)

theorem mem_templateNames : ∀ template ∈ ["base/gitignore.j2", "base/tsconfig.json.j2",
    "server/app.j2", "middleware/errorHandler.j2", "middleware/notFoundHandler.j2",
    "routes/health.j2", "controllers/healthController.j2", "db/prisma-schema.j2"],
    template ∈ templateNames := by
  simp [templateNames, Bundled.templates]

theorem serverTemplate_mem (b : Blueprint) : b.serverTemplate ∈ templateNames := by
  unfold Blueprint.serverTemplate
  cases b.importStyle <;> cases b.language <;> decide +kernel

theorem clientTemplate_mem {template : String} (h : b.clientTemplate? = some template) :
    template ∈ templateNames := by
  unfold Blueprint.clientTemplate? at h
  cases horm : b.orm <;> rw [horm] at h <;> cases h <;> simp [templateNames, Bundled.templates]

/-- Something that holds of each command that a project can have: it writes a directory, a text or a
JSON value, or renders a bundled template, with plain fields or with what the blueprint settles. -/
structure Command.HoldsInProjects (P : Command → Prop) : Prop where
  folder : ∀ path, P (.createDirectory path)
  file : ∀ path (text : String), P (.writeFile path text)
  json : ∀ path value, P (.writeJson path value)
  rendered : ∀ template ∈ templateNames, ∀ path (fields : List (String × Json)),
    fields.all isPlainField → P (Recipe.rendered template path fields)
  byDefault : ∀ template ∈ templateNames, ∀ path, P (Recipe.renderedByDefault template path)

theorem databaseClient_commands {P : Command → Prop} (h : Command.HoldsInProjects P)
    (b : Blueprint) : ∀ t ∈ (Recipe.databaseClient.script b).tasks, P t.command := by
  have hschema : ∀ t ∈ (if b.orm = .prisma then Recipe.schemaScript else .done).tasks,
      P t.command := by
    split
    · intro t ht
      rw [List.mem_singleton.mp ht]
      exact h.byDefault _ (mem_templateNames _ (by simp)) _
    · nofun
  simp only [Recipe.databaseClient]
  split
  · nofun
  · next template htemplate =>
    split
    · nofun
    · rw [tasks_step rfl]
      exact List.forall_mem_cons.mpr ⟨h.byDefault _ (clientTemplate_mem htemplate) _, hschema⟩

theorem forall_mem_pair {α : Type} {a b : α} {p : α → Prop} :
    (∀ x ∈ [a, b], p x) ↔ p a ∧ p b := by
  simp

theorem forall_tasks {P : Command → Prop} (h : Command.HoldsInProjects P) (b : Blueprint) :
    ∀ t ∈ b.tasks, P t.command := by
  obtain ⟨vars, hvars⟩ := environment_ok b
  have hrendered : ∀ {template path} {fields : List (String × Json)}, template ∈ templateNames →
      fields.all isPlainField → (Recipe.rendered template path fields).destination?.isSome ∧
        P (Recipe.rendered template path fields) :=
    fun ht hf => ⟨rfl, h.rendered _ ht _ _ hf⟩
  have hname := mem_templateNames
  simp only [List.forall_mem_cons, List.not_mem_nil, false_implies, implies_true, and_true] at hname
  obtain ⟨hgitignore, htsconfig, happ, herror, hmissing, hhealth, hcontroller, -⟩ := hname
  have hplain : ∀ x y : Bool,
      [("is_typescript", Json.bool x), ("is_esm", .bool y)].all isPlainField := by
    simp [isPlainField, selfName]
  have hrecipe : ∀ r ∈ Recipe.standard, ∀ t ∈ (r.script b).tasks, P t.command := by
    intro r hr
    simp only [Recipe.standard, List.mem_cons, List.not_mem_nil, or_false] at hr
    rcases hr with rfl | rfl | rfl | rfl | rfl | rfl | rfl | rfl | rfl
    · exact forall_ofCommands (List.forall_mem_map.mpr fun path _ => ⟨rfl, h.folder path⟩)
    · exact forall_ofCommands (List.forall_mem_singleton.mpr ⟨rfl, h.json _ _⟩)
    · simp only [Recipe.environment, hvars]
      exact forall_ofCommands (forall_mem_pair.mpr ⟨⟨rfl, h.file _ _⟩, rfl, h.file _ _⟩)
    · exact forall_ofCommands (List.forall_mem_singleton.mpr
        (hrendered hgitignore (by simp [isPlainField, selfName])))
    · simp only [Recipe.tsconfig]
      split
      · exact forall_ofCommands (List.forall_mem_singleton.mpr
          (hrendered htsconfig (by simp [isPlainField, selfName])))
      · exact fun t ht => absurd ht List.not_mem_nil
    · exact forall_ofCommands (forall_mem_pair.mpr
        ⟨⟨rfl, h.byDefault _ happ _⟩, rfl, h.byDefault _ (serverTemplate_mem b) _⟩)
    · exact forall_ofCommands (forall_mem_pair.mpr
        ⟨hrendered herror (hplain _ _), hrendered hmissing (hplain _ _)⟩)
    · exact forall_ofCommands (forall_mem_pair.mpr
        ⟨hrendered hhealth (by simp [isPlainField, selfName]),
          hrendered hcontroller (by simp [isPlainField, selfName])⟩)
    · exact databaseClient_commands h b
  intro t ht
  obtain ⟨r, hr, ht⟩ := List.mem_flatMap.mp ht
  exact hrecipe r hr t ht

variable {t : Task}

theorem destination_of_mem (h : t ∈ b.tasks) : IsDestination t.path t.command.isFolder :=
  (destinations_check b).1 _ ((tasks_sublist b).subset (List.mem_map_of_mem h))

theorem tasks_nodup (b : Blueprint) :
    (b.tasks.map fun t => (Path.ofString t.path).names).Nodup := by
  have := (tasks_sublist b).map fun d => (Path.ofString d.1).names
  rw [List.map_map] at this
  exact this.nodup (destinations_check b).2

theorem forall_isTemplatePath {paths : List String} {css : List (List Char)}
    (hp : Spells paths css) (h : ∀ cs ∈ css, SpellsInner cs ∧
      ∃ name ∈ (Path.named cs).getLast?, ['.', 'j', '2'] <:+ name) :
    ∀ path ∈ paths, IsTemplatePath path := by
  rw [hp.eq_map]
  refine List.forall_mem_map.mpr fun cs hcs => ?_
  obtain ⟨hinner, name, hlast, hname⟩ := h cs hcs
  refine ⟨isInner_ofList hinner, String.ofList name, ?_, ?_⟩
  · rw [Path.names_ofList, List.getLast?_map, hlast, Option.map_some]
  · rwa [IsTemplateName, String.toList_ofList]

theorem isTemplatePath_of_mem : ∀ template ∈ templateNames, IsTemplatePath template := by
  apply forall_isTemplatePath
  · simp only [templateNames, Bundled.templates, List.map_cons, List.map_nil]
    repeat' first | exact .nil | apply Spells.cons rfl
  · decide +kernel

theorem readsTemplates_of_mem (h : t ∈ b.tasks) : t.command.ReadsTemplates := by
  have hreads : Command.HoldsInProjects Command.ReadsTemplates :=
    { folder := fun _ => trivial
      file := fun _ _ => trivial
      json := fun _ _ => trivial
      rendered := fun template ht _ _ _ => isTemplatePath_of_mem template ht
      byDefault := fun template ht _ => isTemplatePath_of_mem template ht }
  exact forall_tasks hreads b t h

end Scaffold
