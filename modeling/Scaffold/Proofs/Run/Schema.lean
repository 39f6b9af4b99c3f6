import Scaffold.Proofs.Run.Fresh
import Scaffold.Proofs.Run.Requested
import Scaffold.Proofs.Run.Turns

/-!
# The schema of a project

Of the tasks of a project only the last can be for the schema, and it is left out if something is
there already (`tasks_eq_concat`). So what stands there before a run stays as it is and is in no
ledger, whatever becomes of the run; and where nothing stood before a run that goes through, the
schema is there and listed afterwards exactly if the project has a database and uses Prisma
(`schema_kept_or_written`).
-/

namespace Scaffold

open Store
open Run (World)
open Scaffold.Path (pathTo)

namespace Blueprint

def schema (b : Blueprint) : Path := b.site.locate Recipe.schemaPath

/-- The project has a database and uses Prisma for it. -/
def WantsSchema (b : Blueprint) : Prop := b.orm = .prisma ∧ b.database ≠ .absent

instance (b : Blueprint) : Decidable b.WantsSchema := by unfold WantsSchema; infer_instance

end Blueprint

def schemaTask : Task :=
  ⟨Recipe.renderedByDefault "db/prisma-schema.j2" Recipe.schemaPath, Recipe.schemaPath, rfl, true⟩

/-- No ledger of a run lists a path, and neither does what the run answers. -/
structure IsUnlisted {E : Template.Engine} (opts : Options) (b : Blueprint)
    (recipes : List Recipe) (world : World E) (key : String) : Prop where
  turns : ∀ t ∈ Run.turns b recipes world, key ∉ t.shop.ledger
  record : ∀ record, (Run.scaffold opts b recipes world).1 = .ok record →
    key ∉ record.created ∧ ∀ l ∈ record.byRecipe, key ∉ l.2
  failure : ∀ f, (Run.scaffold opts b recipes world).1 = .error (.failed f) → key ∉ f.created

variable {E : Template.Engine} {opts : Options} {b : Blueprint} {recipes : List Recipe}
  {world world' : World E} {record : Record} {t : Task} {ts before : List Task} {w' : Workshop E}
  {path : String} {e : Entry} {existed : Bool} {root : Path} {key : String} {loc : Loc}

/-! ## The tasks -/

def Command.SparesSchema (c : Command) : Prop :=
  c.destination?.isSome ∧ c.destination? ≠ some Recipe.schemaPath

theorem path_ne_of_sparesSchema {cs : List Command} (h : ∀ c ∈ cs, c.SparesSchema) :
    ∀ t ∈ (Script.ofCommands cs).tasks, t.path ≠ Recipe.schemaPath := by
  intro t ht he
  have hspares := forall_ofCommands h t ht
  exact hspares (he ▸ t.aimed)

/-- The recipes before the last have nothing for the schema. -/
theorem path_ne_schema (b : Blueprint) : ∀ r ∈ Recipe.standard.dropLast,
    ∀ t ∈ (r.script b).tasks, t.path ≠ Recipe.schemaPath := by
  obtain ⟨vars, hvars⟩ := environment_ok b
  have hfolders : ∀ path ∈ b.requiredFolders, path ≠ Recipe.schemaPath := by
    have hall : ∀ path ∈ folderPaths, path ≠ Recipe.schemaPath := by decide
    have hsub : b.requiredFolders.Sublist folderPaths := (List.filter_sublist).map Folder.path
    exact fun path hp => hall path (hsub.subset hp)
  intro r hr
  simp only [Recipe.standard, List.dropLast, List.mem_cons, List.not_mem_nil, or_false] at hr
  rcases hr with rfl | rfl | rfl | rfl | rfl | rfl | rfl | rfl
  case inl =>
    refine path_ne_of_sparesSchema (List.forall_mem_map.mpr fun path hp => ⟨rfl, fun h => ?_⟩)
    exact hfolders path hp (Option.some.inj h)
  case inr.inr.inl =>
    simp only [Recipe.environment, hvars]
    exact path_ne_of_sparesSchema
      (by simp [Command.SparesSchema, Command.destination?, Recipe.schemaPath])
  case inr.inr.inr.inr.inl =>
    simp only [Recipe.tsconfig]
    split
    · exact path_ne_of_sparesSchema (by
        simp [Command.SparesSchema, Command.destination?, Recipe.rendered, Recipe.schemaPath])
    · exact fun t ht => absurd ht List.not_mem_nil
  all_goals
    refine path_ne_of_sparesSchema ?_
    rcases extension_cases b with hext | hext <;>
      simp [Command.SparesSchema, Command.destination?, Recipe.rendered, Recipe.renderedByDefault,
        Recipe.schemaPath, hext]

theorem databaseClient_concat (b : Blueprint) : ∃ others,
    (Recipe.databaseClient.script b).tasks =
        others ++ (if b.WantsSchema then [schemaTask] else []) ∧
      ∀ t ∈ others, t.path ≠ Recipe.schemaPath := by
  have hclient : "src/db/client." ++ b.extension ≠ Recipe.schemaPath := by
    rcases extension_cases b with hext | hext <;> rw [hext] <;> decide
  simp only [Recipe.databaseClient]
  split
  · next hnone =>
    have hno : ¬ b.WantsSchema := by
      rintro ⟨hprisma, -⟩
      simp [Blueprint.clientTemplate?, hprisma, Orm.clientTemplate?] at hnone
    exact ⟨[], by rw [if_neg hno]; rfl, fun t ht => absurd ht List.not_mem_nil⟩
  · next template _ =>
    by_cases hdatabase : b.database = .absent
    · have hno : ¬ b.WantsSchema := fun hwants => hwants.2 hdatabase
      refine ⟨[], ?_, fun t ht => absurd ht List.not_mem_nil⟩
      rw [if_neg hno, if_pos (by simp [Blueprint.hasDatabase, hdatabase])]
      rfl
    · refine
        ⟨[⟨Recipe.renderedByDefault template ("src/db/client." ++ b.extension), _, rfl, false⟩], ?_,
        List.forall_mem_singleton.mpr hclient⟩
      rw [if_neg (by simp [Blueprint.hasDatabase, hdatabase]), tasks_step rfl]
      by_cases hprisma : b.orm = .prisma
      · rw [if_pos hprisma, if_pos ⟨hprisma, hdatabase⟩]
        rfl
      · rw [if_neg hprisma, if_neg fun hwants => hprisma hwants.1]
        rfl

theorem tasks_eq_concat (b : Blueprint) : ∃ others,
    b.tasks = others ++ (if b.WantsSchema then [schemaTask] else []) ∧ others ≠ [] ∧
      ∀ t ∈ others, t.path ≠ Recipe.schemaPath := by
  obtain ⟨clients, hclients, hother⟩ := databaseClient_concat b
  have hsplit : b.tasks = (Recipe.standard.dropLast.flatMap fun r => (r.script b).tasks) ++
      (Recipe.databaseClient.script b).tasks := by
    have hstandard : Recipe.standard = Recipe.standard.dropLast ++ [Recipe.databaseClient] := rfl
    rw [Blueprint.tasks, hstandard, List.flatMap_append, List.flatMap_singleton]
    rfl
  refine ⟨(Recipe.standard.dropLast.flatMap fun r => (r.script b).tasks) ++ clients, ?_, ?_, ?_⟩
  · rw [hsplit, hclients, List.append_assoc]
  · have hmanifest : (⟨.writeJson "package.json" (.obj b.manifest), "package.json", rfl, false⟩ :
        Task) ∈ Recipe.standard.dropLast.flatMap fun r => (r.script b).tasks :=
      List.mem_flatMap.mpr ⟨Recipe.packageManifest, by simp [Recipe.standard],
        List.mem_singleton.mpr rfl⟩
    exact List.append_ne_nil_of_left_ne_nil (List.ne_nil_of_mem hmanifest) _
  · intro t ht
    rcases List.mem_append.mp ht with hfirst | hclient
    · obtain ⟨r, hr, hin⟩ := List.mem_flatMap.mp hfirst
      exact path_ne_schema b r hr t hin
    · exact hother t hclient

theorem mem_tasks_schema (h : t ∈ b.tasks) (hpath : t.path = Recipe.schemaPath) :
    t = schemaTask := by
  obtain ⟨others, htasks, -, hne⟩ := tasks_eq_concat b
  rw [htasks] at h
  rcases List.mem_append.mp h with h | h
  · exact absurd hpath (hne t h)
  · split at h
    · exact List.mem_singleton.mp h
    · exact absurd h List.not_mem_nil

theorem eq_others {others after : List Task} (hne : ∀ t ∈ others, t.path ≠ Recipe.schemaPath)
    (h : others ++ (if b.WantsSchema then [schemaTask] else []) = before ++ schemaTask :: after) :
    before = others := by
  rcases List.append_eq_append_iff.mp h with ⟨later, hbefore, hrest⟩ | ⟨later, hothers, hrest⟩
  · split at hrest
    · cases later with
      | nil => rw [hbefore, List.append_nil]
      | cons t later => simp at hrest
    · simp at hrest
  · cases later with
    | nil => rw [hothers, List.append_nil]
    | cons t later =>
      obtain ⟨rfl, -⟩ := List.cons.inj hrest
      exact absurd rfl (hne schemaTask (by rw [hothers]; simp))

theorem schema_isInner : IsInner Recipe.schemaPath := by decide

theorem schema_loc (b : Blueprint) :
    b.schema.loc = (Path.ofString Recipe.schemaPath).names.reverse ++ b.site.root.loc :=
  @task_loc b.site schemaTask schema_isInner

/-- The way to a task leads through the place of the schema only if the task is for it. -/
theorem path_eq_of_suffix (h : t ∈ b.tasks) (hl : b.schema.loc <:+ t.loc b.site) :
    t.path = Recipe.schemaPath := by
  have hmem : t.destination ∈ destinations b.extension :=
    (tasks_sublist b).subset (List.mem_map_of_mem h)
  have hschema : (Recipe.schemaPath, false) ∈ destinations b.extension := by
    simp [destinations, filePaths]
  obtain ⟨hall, hnodup⟩ := destinations_check b
  rw [schema_loc, task_loc (destination_of_mem h).inner] at hl
  obtain ⟨below, hbelow⟩ := hl
  rw [← List.append_assoc, List.append_left_inj] at hbelow
  have hnames : (Path.ofString t.path).names =
      (Path.ofString Recipe.schemaPath).names ++ below.reverse := by
    simpa using (congrArg List.reverse hbelow).symm
  obtain ⟨name, hlast, hdotted⟩ := Option.map_eq_some_iff.mp (hall _ hschema).last
  -- the name of the schema has a dot, so no name stands behind it
  have hbehind : below.reverse = [] := by
    by_contra hne
    have houter := (hall _ hmem).outer name
    rw [Task.destination, hnames, List.dropLast_append_of_ne_nil hne, List.mem_append,
      hdotted] at houter
    cases houter (.inl (List.mem_of_getLast? hlast))
  rw [hbehind, List.append_nil] at hnames
  exact congrArg Prod.fst (List.inj_on_of_nodup_map hnodup hmem hschema hnames)

theorem requests_isInner : ∀ path ∈ Run.requests b Recipe.standard world, IsInner path := by
  intro path hp
  obtain ⟨t, before, w', rfl, ⟨after, htasks⟩, -, -⟩ := requests_of_tasks (standard_isPlanned b) hp
  have ht : t ∈ b.tasks := by rw [Blueprint.tasks, htasks]; simp
  exact (destination_of_mem ht).inner

theorem noNul_of_fits (hin : IsInner path) (h : (b.site.locate path).Fits) :
    b.schema.hasNul = false := by
  have hnul := h.noNul
  rw [Site.locate, Path.child_of_isInner hin] at hnul
  have hschema : b.schema = ⟨b.site.root.anchor,
      b.site.root.names ++ (Path.ofString Recipe.schemaPath).names⟩ :=
    Path.child_of_isInner schema_isInner
  rw [hschema]
  simp only [Path.hasNul, List.any_append, Bool.or_eq_false_iff] at hnul ⊢
  exact ⟨hnul.1, by decide⟩

/-- Tasks that go through leave the place of the schema alone, unless one is for it. -/
theorem runAll_spares_schema (hr : b.site.root.IsPlain) (hs : world.store.IsPlain)
    (hts : ∀ t ∈ ts, t ∈ b.tasks ∧ t.path ≠ Recipe.schemaPath)
    (h : b.site.runAll ts ⟨world.store, world.library, []⟩ = (.ok (), w')) :
    w'.store.IsPlain ∧ (∀ t ∈ ts, (b.site.locate t.path).Fits) ∧
      w'.store.at? b.schema.loc = world.store.at? b.schema.loc := by
  have hin : ∀ t ∈ ts, IsInner t.path := fun t ht => (destination_of_mem (hts t ht).1).inner
  obtain ⟨hplain, hview⟩ :=
    runAll_elsewhere (w := ⟨world.store, world.library, []⟩) hr hs hin
  have hfits := runAll_fits hr hs hin h
  rw [h] at hplain hview
  exact ⟨hplain, hfits, hview _ fun t ht hl => (hts t ht).2 (path_eq_of_suffix (hts t ht).1 hl)⟩

/-- A schema that is there is not asked for, and neither is what lies below it. -/
theorem schema_not_requested (hs : world.store.IsPlain) (hroot : ".." ∉ b.site.root.names)
    (he : world.store.at? b.schema.loc = some e) (hl : b.schema.loc <:+ loc) :
    ¬ Run.IsRequested b Recipe.standard world loc := by
  have hr := site_root_isPlain b hroot
  rintro ⟨path, hp, rfl⟩
  obtain ⟨t, before, w', rfl, ⟨after, hturn⟩, hdone, hmissing⟩ :=
    requests_of_tasks (standard_isPlanned b) hp
  have ht : t ∈ b.tasks := by rw [Blueprint.tasks, hturn]; simp
  obtain rfl := mem_tasks_schema ht (path_eq_of_suffix ht hl)
  obtain ⟨others, htasks, hsome, hne⟩ := tasks_eq_concat b
  obtain rfl := eq_others hne (htasks.symm.trans hturn)
  have hbefore : ∀ u ∈ before, u ∈ b.tasks ∧ u.path ≠ Recipe.schemaPath := fun u hu =>
    ⟨by rw [htasks]; exact List.mem_append_left _ hu, hne u hu⟩
  obtain ⟨hplain, hfits, hview⟩ := runAll_spares_schema hr hs hbefore hdone
  -- a path with a NUL would also be found missing, but then no task before went through
  have hnul : b.schema.hasNul = false := by
    obtain ⟨u, hu⟩ := List.exists_mem_of_ne_nil before hsome
    exact noNul_of_fits (destination_of_mem (hbefore u hu).1).inner (hfits u hu)
  have hschema : b.schema.IsPlain := Path.child_isPlain hr schema_isInner
  rw [exists?_false hplain hschema (hmissing rfl) hnul, he] at hview
  cases hview

/-- The recipes leave a schema alone that is there, with all below it. -/
theorem leftBy_schema (hs : world.store.IsPlain) (hroot : ".." ∉ b.site.root.names)
    (he : world.store.at? b.schema.loc = some e) (hl : b.schema.loc <:+ loc) :
    (Run.leftBy b Recipe.standard world).at? loc = world.store.at? loc := by
  have hr := site_root_isPlain b hroot
  by_cases hat : loc = b.schema.loc
  · obtain ⟨locs, -, hacc⟩ := progress_accounted hs hr requests_isInner
    rw [hat, he]
    exact hacc.unasked he (schema_not_requested hs hroot he List.suffix_rfl)
  · rw [leftBy_eq_runAll (standard_isPlanned b), ← Blueprint.tasks]
    have hin : ∀ t ∈ b.tasks, IsInner t.path := fun t ht => (destination_of_mem ht).inner
    obtain ⟨-, hview⟩ := runAll_elsewhere (w := ⟨world.store, world.library, []⟩) hr hs hin
    refine hview loc fun t ht hway => hat ?_
    have hplace : t.loc b.site = b.schema.loc := by
      rw [Task.loc, path_eq_of_suffix ht (hl.trans hway)]
      rfl
    rw [hplace] at hway
    exact hway.eq_of_length_le hl.length_le

/-! ## What a run tells -/

theorem standard_names_nodup : (Recipe.standard.map (·.name)).Nodup := by decide

theorem conclude_created {p : Progress E} {f : Failure}
    (h : (p.conclude opts root existed).1 = .error (.failed f)) : f.created = p.record.created := by
  unfold Progress.conclude at h
  split at h
  · dsimp only at h
    exact absurd h report_ok_ne_failed
  · unfold Run.fail at h
    split at h
    · split at h
      · cases h
      · dsimp only at h
        rw [← Failure.report_eq_failed h]
    · dsimp only at h
      rw [← Failure.report_eq_failed h]

theorem isUnlisted_of (hnames : (recipes.map (·.name)).Nodup)
    (h : key ∉ (Run.progress b recipes .empty world).record.created) :
    IsUnlisted opts b recipes world key := by
  have hrecord : (Run.progress b recipes .empty world).record =
      Run.recordOf (Run.turns b recipes world) := by rw [progress_eq_turns hnames]
  have hledgers : ∀ t ∈ Run.turns b recipes world, key ∉ t.shop.ledger := by
    intro t ht hkey
    rw [hrecord] at h
    exact h (List.mem_eraseDups.mpr (List.mem_flatMap.mpr ⟨t, ht, hkey⟩))
  refine ⟨hledgers, fun record hok => ?_, fun f hf => ?_⟩
  · obtain ⟨-, hprogress, -⟩ := scaffold_ok_iff.mp (Prod.ext hok rfl)
    rw [hprogress] at h hrecord
    refine ⟨h, ?_⟩
    rw [show record.byRecipe = _ from congrArg Record.byRecipe hrecord]
    exact List.forall_mem_map.mpr hledgers
  · cases hex : world.store.exists? b.site.root with
    | error g => rw [scaffold_early hex] at hf; cases hf
    | ok existed =>
      rw [scaffold_eq_conclude hex] at hf
      rw [conclude_created hf]
      exact h

section Schema

variable (opts : Options) (hs : world.store.IsPlain) (hroot : ".." ∉ b.site.root.names)

include hs hroot

theorem schema_isUnlisted (he : world.store.at? b.schema.loc = some e) :
    IsUnlisted opts b Recipe.standard world b.schema.text := by
  have hr := site_root_isPlain b hroot
  obtain ⟨locs, hcreated, hacc⟩ := progress_accounted hs hr requests_isInner
  refine isUnlisted_of standard_names_nodup fun hkey => ?_
  rw [hcreated] at hkey
  exact hacc.not_listed he (schema_not_requested hs hroot he List.suffix_rfl)
    (hacc.mem_of_text (Path.child_isPlain hr schema_isInner) (Path.anchor_child schema_isInner)
      hkey)

/-- Where there was no schema, a run that goes through leaves and lists one exactly if it is
wanted. -/
theorem schema_written_iff (hnone : world.store.at? b.schema.loc = none)
    (h : Run.scaffold opts b Recipe.standard world = (.ok record, world')) :
    ((world'.store.at? b.schema.loc).isSome ↔ b.WantsSchema) ∧
      (b.schema.text ∈ record.created ↔ b.WantsSchema) := by
  have hr := site_root_isPlain b hroot
  obtain ⟨-, hprogress, -⟩ := scaffold_ok_iff.mp h
  have hrun := runAll_of_progress hprogress
  obtain ⟨others, htasks, -, hne⟩ := tasks_eq_concat b
  have hothers : ∀ t ∈ others, t ∈ b.tasks ∧ t.path ≠ Recipe.schemaPath := fun t ht =>
    ⟨by rw [htasks]; exact List.mem_append_left _ ht, hne t ht⟩
  rw [htasks, runAll_append] at hrun
  split at hrun
  · next w hw =>
    obtain ⟨hplain, -, hview⟩ := runAll_spares_schema hr hs hothers hw
    by_cases hwants : b.WantsSchema
    · rw [if_pos hwants, Site.runAll] at hrun
      split at hrun
      · next w' hlast =>
        cases hrun
        have hdone : schemaTask.Done b.site w _ := task_done hr hplain schema_isInner hlast
        exact ⟨iff_of_true hdone.there hwants,
          iff_of_true (hdone.listed (hview.trans hnone)) hwants⟩
      · cases hrun
    · rw [if_neg hwants] at hrun
      cases hrun
      have hmissing : world'.store.at? b.schema.loc = none := hview.trans hnone
      refine ⟨iff_of_false (by simp [hmissing]) hwants, iff_of_false (fun hkey => ?_) hwants⟩
      obtain ⟨locs, hcreated, hacc⟩ := progress_accounted hs hr requests_isInner
      rw [hprogress] at hcreated hacc
      rw [show record.created = _ from hcreated] at hkey
      have hin : b.schema.loc ∈ locs := hacc.mem_of_text (Path.child_isPlain hr schema_isInner)
        (Path.anchor_child schema_isInner) hkey
      have hthere : (world'.store.at? b.schema.loc).isSome := (hacc.recorded _ hin).2.2.2.1
      rw [hmissing] at hthere
      cases hthere
  · cases hrun

/-- **A schema is kept, or written where one is wanted.** In a store without links and below a root
without `..`, with any templates and any options: a schema that is there before a run of the
standard recipes, whatever it is, is the same afterwards with all below it, and is listed nowhere,
whether the run goes through, fails or is undone. If none is there, a run that goes through leaves
one and lists it exactly if the project has a database and uses Prisma. -/
theorem schema_kept_or_written :
    ((world.store.at? b.schema.loc).isSome →
      (∀ loc, b.schema.loc <:+ loc →
        (Run.scaffold opts b Recipe.standard world).2.store.at? loc = world.store.at? loc) ∧
        IsUnlisted opts b Recipe.standard world b.schema.text) ∧
    (world.store.at? b.schema.loc = none →
      ∀ record world', Run.scaffold opts b Recipe.standard world = (.ok record, world') →
        ((world'.store.at? b.schema.loc).isSome ↔ b.WantsSchema) ∧
          (b.schema.text ∈ record.created ↔ b.WantsSchema)) := by
  refine ⟨fun hthere => ?_, fun hnone record world' h =>
    schema_written_iff opts hs hroot hnone h⟩
  obtain ⟨e, he⟩ := Option.isSome_iff_exists.mp hthere
  refine ⟨fun loc hl => ?_, schema_isUnlisted opts hs hroot he⟩
  exact at?_scaffold_of_left opts hs hroot requests_isInner (leftBy_schema hs hroot he hl)
    fun _ => schema_not_requested hs hroot he hl

end Schema

/-- The project has a database and uses Prisma. -/
def storingChoices (target : String) : Choices :=
  ⟨"app", .javascript, .esm, .postgres, .prisma, target⟩

/-- Its root is there, with a schema and with a file where a folder is to be made. -/
def storingBlueprint : Blueprint := ⟨storingChoices "/srv", by decide⟩

def schemaDisk : Store :=
  ((sampleStore.insert ["src", "srv"] (.file .empty)).insert ["prisma", "srv"] .directory).insert
    ["schema.prisma", "prisma", "srv"] (.file "kept".toUTF8)

def schemaWorld : World Template.engine := ⟨schemaDisk, .new none⟩

def wantingBlueprint : Blueprint := ⟨storingChoices "/srv/new", by decide⟩

/-- The failure that was undone, if that is what became of a run. -/
def undoneFailure? : Except Breakdown Record → Option Failure
  | .error (.failed f) => if f.undone then some f else none
  | _ => none

theorem schema_kept_or_written_on_small_disks :
    schemaWorld.store.IsPlain ∧ ".." ∉ storingBlueprint.site.root.names ∧
      freeWorld.store.IsPlain ∧ ".." ∉ wantingBlueprint.site.root.names ∧
      (∃ result world', Run.scaffold .default storingBlueprint Recipe.standard schemaWorld =
          (result, world') ∧ (undoneFailure? result).isSome ∧
        world'.store.at? storingBlueprint.schema.loc = some (.file "kept".toUTF8) ∧
        IsUnlisted .default storingBlueprint Recipe.standard schemaWorld
          storingBlueprint.schema.text) ∧
      ∃ record world', Run.scaffold .default wantingBlueprint Recipe.standard freeWorld =
          (.ok record, world') ∧ (world'.store.at? wantingBlueprint.schema.loc).isSome ∧
        wantingBlueprint.schema.text ∈ record.created := by
  have hroot : ".." ∉ storingBlueprint.site.root.names := by decide
  have hschema : schemaWorld.store.IsPlain := isPlain_of_entries (by decide +kernel)
  have hfresh : IsFresh wantingBlueprint freeWorld := isFresh_of_root rfl
  refine ⟨hschema, hroot, hfresh.plain, hfresh.inward, ?_, ?_⟩
  · have hloc : storingBlueprint.schema.loc = ["schema.prisma", "prisma", "srv"] := by
      decide +kernel
    have hthere : schemaDisk.at? storingBlueprint.schema.loc = some (.file "kept".toUTF8) := by
      rw [hloc]
      exact at?_insert_self (by decide)
    obtain ⟨hkept, hunlisted⟩ := (@schema_kept_or_written Template.engine storingBlueprint
      schemaWorld .default hschema hroot).1 (by rw [schemaWorld, hthere]; rfl)
    exact ⟨_, _, (Prod.eta _).symm, by decide +kernel, (hkept _ List.suffix_rfl).trans hthere,
      hunlisted⟩
  · obtain ⟨record, world, h⟩ := hfresh.exists_ok .default
      (Markup.Tag.isPlainChar_of_all (by decide +kernel))
    have hwants : wantingBlueprint.WantsSchema := by decide
    have hnone : freeWorld.store.at? wantingBlueprint.schema.loc = none :=
      hfresh.none_below (Path.root_suffix_child schema_isInner)
    obtain ⟨hthere, hlisted⟩ := (@schema_kept_or_written Template.engine wantingBlueprint freeWorld
      .default hfresh.plain hfresh.inward).2 hnone record world h
    exact ⟨record, world, h, hthere.mpr hwants, hlisted.mpr hwants⟩

end Scaffold
