import Scaffold.Proofs.Ledger.Performing
import Scaffold.Proofs.Run.Progress
import Scaffold.Recipe.Standard

/-!
# Recipes as tasks

The standard recipes never look at what a command answers, except that one leaves a file out that is
there already. So they come down to a list of tasks (`standard_eq_tasks`), and a run of recipes does
the tasks one after the other with one ledger (`progress_runAll`).
-/

namespace Scaffold

open Store
open Run (World)

variable {E : Template.Engine}

/-- One step of a recipe: a command for a path. -/
structure Task where
  command : Command
  path : String
  aimed : command.destination? = some path
  /-- Left out if something is there already. -/
  optional : Bool

namespace Task

def runCommand (site : Site) (t : Task) (w : Workshop E) : Except Fault Unit × Workshop E :=
  let result := site.perform w t.command
  (result.1.map fun _ => (), result.2)

def run (site : Site) (t : Task) (w : Workshop E) : Except Fault Unit × Workshop E :=
  if t.optional then
    match w.store.exists? (site.locate t.path) with
    | .error f => (.error f, w)
    | .ok true => (.ok (), w)
    | .ok false => t.runCommand site w
  else t.runCommand site w

end Task

/-- Carries out tasks one after the other, up to the first that fails. -/
def Site.runAll (site : Site) : List Task → Workshop E → Except Fault Unit × Workshop E
  | [], w => (.ok (), w)
  | t :: ts, w => match t.run site w with
    | (.ok (), w) => site.runAll ts w
    | (.error f, w) => (.error f, w)

def Script.ofTasks : List Task → Script
  | [] => .done
  | t :: ts =>
    if t.optional then
      .call (.pathExists t.path) (.andThen fun
        | .present true => ofTasks ts
        | _ => .step t.command (ofTasks ts))
    else .step t.command (ofTasks ts)

variable {site : Site} {w w' : Workshop E} {t : Task} {ts us : List Task} {created : List String}

theorem step_run (site : Site) (c : Command) (rest : Script) (w : Workshop E) :
    (Script.step c rest).run site w = match site.perform w c with
      | (.ok _, w) => rest.run site w
      | (.error f, w) => (.error f, w) := by
  rw [Script.step, run_call]
  cases site.perform w c with
  | mk r w => cases r <;> rfl

theorem runCommand_ok {w₁ : Workshop E} : t.runCommand site w = (.ok (), w₁) ↔
    ∃ a, site.perform w t.command = (.ok a, w₁) := by
  unfold Task.runCommand
  cases site.perform w t.command with
  | mk r w => cases r <;> simp [Except.map]

theorem ofTasks_run (site : Site) (ts : List Task) (w : Workshop E) :
    (Script.ofTasks ts).run site w = site.runAll ts w := by
  have hcommand : ∀ (t : Task) (rest : List Task) (w : Workshop E),
      (∀ w : Workshop E, (Script.ofTasks rest).run site w = site.runAll rest w) →
      (Script.step t.command (.ofTasks rest)).run site w =
        match t.runCommand site w with
        | (.ok (), w) => site.runAll rest w
        | (.error f, w) => (.error f, w) := by
    intro t rest w ih
    rw [step_run, Task.runCommand]
    cases site.perform w t.command with
    | mk r w =>
      cases r with
      | ok a => exact ih w
      | error f => rfl
  induction ts generalizing w with
  | nil => rfl
  | cons t ts ih =>
    rw [Script.ofTasks, Site.runAll, Task.run]
    split
    · rw [run_call]
      simp only [Site.perform]
      cases w.store.exists? (site.locate t.path) with
      | error f => rfl
      | ok there =>
        cases there with
        | true => exact ih w
        | false => exact hcommand t ts w ih
    · exact hcommand t ts w ih

theorem runAll_append (site : Site) (ts us : List Task) (w : Workshop E) :
    site.runAll (ts ++ us) w = match site.runAll ts w with
      | (.ok (), w) => site.runAll us w
      | (.error f, w) => (.error f, w) := by
  induction ts generalizing w with
  | nil => rfl
  | cons t ts ih =>
    rw [List.cons_append, Site.runAll, Site.runAll]
    cases t.run site w with
    | mk r w =>
      cases r with
      | ok _ => exact ih w
      | error f => rfl

theorem runCommand_after (w : Workshop E) (t : Task) :
    t.runCommand site (w.after created) = later created (t.runCommand site w) := by
  unfold Task.runCommand
  rw [perform_after]
  rfl

theorem task_run_after (w : Workshop E) (t : Task) :
    t.run site (w.after created) = later created (t.run site w) := by
  unfold Task.run
  rw [after_store, runCommand_after]
  split
  · cases w.store.exists? (site.locate t.path) with
    | error f => rfl
    | ok there => cases there <;> rfl
  · rfl

/-- Tasks do the same whatever was recorded before them. -/
theorem runAll_after (w : Workshop E) (ts : List Task) :
    site.runAll ts (w.after created) = later created (site.runAll ts w) := by
  induction ts generalizing w with
  | nil => rfl
  | cons t ts ih =>
    rw [Site.runAll, Site.runAll, task_run_after]
    cases t.run site w with
    | mk r w =>
      cases r with
      | ok _ => exact ih w
      | error f => rfl

/-- The tasks of a script that finds nothing there and writes whatever it is to write. -/
def Script.tasks : Script → List Task
  | .done | .fail _ => []
  | .call c next => match h : c.destination? with
    | some path => ⟨c, path, h, false⟩ :: tasks (next (.ok (.present false)))
    | none => match tasks (next (.ok (.present false))) with
      | [] => []
      | t :: ts => { t with optional := true } :: ts

/-- The script does its tasks and nothing else. -/
def Script.IsPlanned (script : Script) : Prop := script = .ofTasks script.tasks

theorem tasks_step {c : Command} {path : String} (h : c.destination? = some path) (rest : Script) :
    (Script.step c rest).tasks = ⟨c, path, h, false⟩ :: rest.tasks := by
  rw [Script.step, Script.tasks]
  split
  · next p hp =>
    cases h.symm.trans hp
    rfl
  · next hn => rw [hn] at h; cases h

theorem Script.IsPlanned.step {rest : Script} (h : rest.IsPlanned) {c : Command}
    (hc : c.destination?.isSome) : (Script.step c rest).IsPlanned := by
  obtain ⟨path, hpath⟩ := Option.isSome_iff_exists.mp hc
  rw [Script.IsPlanned, tasks_step hpath, Script.ofTasks, ← h]
  rfl

theorem isPlanned_ofCommands {cs : List Command} (h : ∀ c ∈ cs, c.destination?.isSome) :
    (Script.ofCommands cs).IsPlanned := by
  induction cs with
  | nil => rfl
  | cons c cs ih =>
    have hrest : (Script.ofCommands cs).IsPlanned :=
      ih fun d hd => h d (List.mem_cons_of_mem _ hd)
    exact hrest.step (h c List.mem_cons_self)

/-! ## Runs -/

variable {b : Blueprint} {recipes : List Recipe} {record : Record} {world : World E}

/-- How far a run gets is how far its tasks get with one ledger for all. -/
theorem progress_runAll (h : ∀ r ∈ recipes, (r.script b).IsPlanned) :
    let p := Run.progress b recipes record world
    let r := b.site.runAll (recipes.flatMap fun r => (r.script b).tasks) (workshop record world)
    workshop p.record p.world = r.2 ∧ (p.failure? = none ↔ r.1 = .ok ()) := by
  induction recipes generalizing record world with
  | nil => simp [Run.progress, Site.runAll]
  | cons r rest ih =>
    have hrun : r.run b world.store world.library =
        b.site.runAll (r.script b).tasks ⟨world.store, world.library, []⟩ := by
      rw [← ofTasks_run, ← h r List.mem_cons_self]
      rfl
    have hlater : b.site.runAll (r.script b).tasks (workshop record world) =
        later record.created
          (b.site.runAll (r.script b).tasks ⟨world.store, world.library, []⟩) :=
      runAll_after ⟨world.store, world.library, []⟩ _
    simp only [List.flatMap_cons, runAll_append, hlater]
    unfold Run.progress
    rw [hrun]
    cases b.site.runAll (r.script b).tasks ⟨world.store, world.library, []⟩ with
    | mk result w =>
      cases result with
      | ok _ => exact ih fun r hr => h r (List.mem_cons_of_mem _ hr)
      | error f => exact ⟨rfl, by simp [later]⟩

theorem leftBy_eq_runAll (h : ∀ r ∈ recipes, (r.script b).IsPlanned) :
    Run.leftBy b recipes world =
      (b.site.runAll (recipes.flatMap fun r => (r.script b).tasks)
        ⟨world.store, world.library, []⟩).2.store :=
  congrArg (·.store) (@progress_runAll E b recipes .empty world h).1

/-! ## The standard recipes -/

theorem environment_ok (b : Blueprint) : ∃ vars, b.environment = .ok vars := by
  have hurl : ∀ key comment shadow, b.hasDatabase = true →
      ∃ v, b.urlVariable key comment shadow = .ok v := by
    intro key comment shadow hdb
    unfold Blueprint.urlVariable Blueprint.databaseUrl Blueprint.hasDatabase at *
    cases hdata : b.database <;>
      simp_all [Database.serverUrl?, bind, Except.bind]
  unfold Blueprint.environment
  cases hdb : b.hasDatabase with
  | false => exact ⟨_, rfl⟩
  | true =>
    obtain ⟨url, hu⟩ := hurl "DATABASE_URL" "Database connection string" false hdb
    obtain ⟨shadow, hsh⟩ := hurl "SHADOW_DATABASE_URL"
      "Prisma shadow database for safe migrations (dev only)" true hdb
    simp only [Bool.not_true, Bool.false_eq_true, if_false, hu, hsh, bind, Except.bind]
    split <;> exact ⟨_, rfl⟩

theorem schemaScript_isPlanned : Recipe.schemaScript.IsPlanned := by
  unfold Script.IsPlanned
  rfl

/-- Every standard recipe does its tasks and nothing else. -/
theorem standard_isPlanned (b : Blueprint) :
    ∀ r ∈ Recipe.standard, (r.script b).IsPlanned := by
  intro r hr
  obtain ⟨vars, hvars⟩ := environment_ok b
  simp only [Recipe.standard, List.mem_cons, List.not_mem_nil, or_false] at hr
  rcases hr with rfl | rfl | rfl | rfl | rfl | rfl | rfl | rfl | rfl
  case inr.inr.inl =>
    simp only [Recipe.environment, hvars]
    exact isPlanned_ofCommands (by simp [Command.destination?])
  case inr.inr.inr.inr.inr.inr.inr.inr =>
    simp only [Recipe.databaseClient]
    split
    · rfl
    · split
      · rfl
      · refine Script.IsPlanned.step ?_ rfl
        split
        · exact schemaScript_isPlanned
        · rfl
  case inr.inr.inr.inr.inl =>
    simp only [Recipe.tsconfig]
    split <;> exact isPlanned_ofCommands (by simp [Command.destination?, Recipe.rendered])
  all_goals
    exact isPlanned_ofCommands
      (by simp [Command.destination?, Recipe.rendered, Recipe.renderedByDefault])

def Blueprint.tasks (b : Blueprint) : List Task :=
  Recipe.standard.flatMap fun r => (r.script b).tasks

/-- The standard recipes go through if and only if their tasks do. -/
theorem runAll_of_progress
    (h : Run.progress b Recipe.standard .empty world = ⟨none, record, world'⟩) :
    b.site.runAll b.tasks ⟨world.store, world.library, []⟩ =
      (.ok (), ⟨world'.store, world'.library, record.created⟩) := by
  have hrun := @progress_runAll E b Recipe.standard .empty world (standard_isPlanned b)
  rw [h] at hrun
  exact Prod.ext (hrun.2.mp rfl) hrun.1.symm

theorem progress_of_runAll {w : Workshop E}
    (h : b.site.runAll b.tasks ⟨world.store, world.library, []⟩ = (.ok (), w)) :
    ∃ record world', Run.progress b Recipe.standard .empty world = ⟨none, record, world'⟩ ∧
      ⟨world'.store, world'.library, record.created⟩ = w := by
  have hrun := @progress_runAll E b Recipe.standard .empty world (standard_isPlanned b)
  have hrun' : b.site.runAll (Recipe.standard.flatMap fun r => (r.script b).tasks)
      (workshop .empty world) = (.ok (), w) := h
  rw [hrun'] at hrun
  cases hp : Run.progress b Recipe.standard .empty world with
  | mk failure? record world' =>
    rw [hp] at hrun
    obtain rfl : failure? = none := hrun.2.mpr rfl
    exact ⟨record, world', rfl, hrun.1⟩

theorem tasks_nonempty (b : Blueprint) : ∃ t, t ∈ b.tasks :=
  ⟨⟨.writeJson "package.json" (.obj b.manifest), "package.json", rfl, false⟩,
    List.mem_flatMap.mpr ⟨Recipe.packageManifest, by simp [Recipe.standard],
      List.mem_singleton.mpr rfl⟩⟩

end Scaffold
