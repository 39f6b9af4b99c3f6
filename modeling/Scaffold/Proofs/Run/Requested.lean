import Scaffold.Proofs.Ledger.Failing
import Scaffold.Proofs.Run.Settled

/-!
# What tasks ask for

A run asks only for the paths of its tasks, each after the tasks before it went through, and for an
optional one only if nothing was found there (`requests_of_tasks`). Whatever becomes of tasks, they
change nothing but their places and the way to them (`runAll_elsewhere`).
-/

namespace Scaffold

open Store
open Run (World)

/-- The place that a task is for comes up: the tasks before it went through, and if it is optional
nothing was found there. -/
structure Task.ComesUp {E : Template.Engine} (site : Site) (ts : List Task) (w : Workshop E)
    (t : Task)
    (before : List Task) (w' : Workshop E) : Prop where
  turn : ∃ after, ts = before ++ t :: after
  done : site.runAll before w = (.ok (), w')
  missing : t.optional = true → w'.store.exists? (site.locate t.path) = .ok false

variable {E : Template.Engine} {site : Site} {b : Blueprint} {recipes : List Recipe}
  {world : World E} {w w' : Workshop E} {c : Command} {rest : Script} {t u : Task}
  {ts us before : List Task} {path : String}

theorem mem_requests_call {next : Except Fault Answer → Script} :
    path ∈ (Script.call c next).requests site w ↔ site.request? w c = some path ∨
      path ∈ (next (site.perform w c).1).requests site (site.perform w c).2 := by
  simp only [Script.requests, Script.trace, List.mem_filterMap, List.mem_cons, or_and_right,
    exists_or, exists_eq_left]

theorem step_requests (h : path ∈ (Script.step c rest).requests site w) :
    site.request? w c = some path ∨
      ∃ a w₁, site.perform w c = (.ok a, w₁) ∧ path ∈ rest.requests site w₁ := by
  rw [Script.step, mem_requests_call] at h
  refine h.imp_right fun h => ?_
  cases hp : site.perform w c with
  | mk r w₁ =>
    rw [hp] at h
    cases r with
    | ok a => exact ⟨a, w₁, rfl, h⟩
    | error f => exact absurd h List.not_mem_nil

theorem Task.ComesUp.cons {w₁ : Workshop E} (h : t.ComesUp site ts w₁ before w')
    (hu : u.run site w = (.ok (), w₁)) : t.ComesUp site (u :: ts) w (u :: before) w' where
  turn := h.turn.imp fun after hts => by rw [hts]; rfl
  done := by rw [Site.runAll, hu]; exact h.done
  missing := h.missing

theorem ofTasks_requests (h : path ∈ (Script.ofTasks ts).requests site w) :
    ∃ (t : Task) (before : List Task) (w' : Workshop E), t.path = path ∧
      t.ComesUp site ts w before w' := by
  induction ts generalizing w with
  | nil => exact absurd h List.not_mem_nil
  | cons t ts ih =>
    -- the command of the task is carried out, unless it asks for the path itself
    have hcommand : (t.optional = true → w.store.exists? (site.locate t.path) = .ok false) →
        path ∈ (Script.step t.command (.ofTasks ts)).requests site w →
        ∃ (u : Task) (before : List Task) (w' : Workshop E), u.path = path ∧
          u.ComesUp site (t :: ts) w before w' := by
      intro hmissing hstep
      rcases step_requests hstep with hreq | ⟨a, w₁, hp, hrest⟩
      · have hpath : t.path = path :=
          Option.some.inj (t.aimed.symm.trans (destination?_of_request? hreq))
        exact ⟨t, [], w, hpath, ⟨ts, rfl⟩, rfl, hmissing⟩
      · have hrun : t.run site w = (.ok (), w₁) := by
          have hc := runCommand_ok.mpr ⟨a, hp⟩
          unfold Task.run
          split
          · next ho => rw [hmissing ho]; exact hc
          · exact hc
        obtain ⟨u, before, w', hpath, hu⟩ := ih hrest
        exact ⟨u, t :: before, w', hpath, hu.cons hrun⟩
    rw [Script.ofTasks] at h
    split at h
    · next ho =>
      -- the question asks for nothing
      replace h := (mem_requests_call.mp h).resolve_left fun hask => by cases hask
      simp only [Site.perform] at h
      cases hex : w.store.exists? (site.locate t.path) with
      | error f => rw [hex] at h; exact absurd h List.not_mem_nil
      | ok there =>
        rw [hex] at h
        cases there with
        | true =>
          have hskip : t.run site w = (.ok (), w) := by rw [Task.run, if_pos ho, hex]
          obtain ⟨u, before, w', hpath, hu⟩ := ih h
          exact ⟨u, t :: before, w', hpath, hu.cons hskip⟩
        | false => exact hcommand (fun _ => hex) h
    · next ho => exact hcommand (fun h => absurd h ho) h

theorem requests_of_tasks (hplanned : ∀ r ∈ recipes, (r.script b).IsPlanned)
    (h : path ∈ Run.requests b recipes world) :
    ∃ (t : Task) (before : List Task) (w' : Workshop E), t.path = path ∧
      t.ComesUp b.site (recipes.flatMap fun r => (r.script b).tasks)
        ⟨world.store, world.library, []⟩ before w' := by
  induction recipes generalizing world with
  | nil => exact absurd h List.not_mem_nil
  | cons r recipes ih =>
    have hscript := hplanned r List.mem_cons_self
    have hrun : r.run b world.store world.library =
        b.site.runAll (r.script b).tasks ⟨world.store, world.library, []⟩ := by
      rw [← ofTasks_run, ← hscript]
      rfl
    rw [Run.requests, Run.trace, List.filterMap_append, List.mem_append] at h
    rcases h with hfirst | hlater
    · rw [hscript] at hfirst
      obtain ⟨t, before, w', hpath, ⟨after, hts⟩, hdone, hmissing⟩ := ofTasks_requests hfirst
      exact ⟨t, before, w', hpath, ⟨after ++ recipes.flatMap fun r => (r.script b).tasks,
        by rw [List.flatMap_cons, hts]; simp⟩, hdone, hmissing⟩
    · cases hr : r.run b world.store world.library with
      | mk result w₁ =>
        rw [hr] at hlater
        cases result with
        | error f => exact absurd hlater List.not_mem_nil
        | ok _ =>
          obtain ⟨t, before, w', hpath, ⟨after, hts⟩, hdone, hmissing⟩ :=
            ih (fun r hr => hplanned r (List.mem_cons_of_mem _ hr)) hlater
          -- the tasks of the other recipes do the same with the ledger of the first
          have hgo := @runAll_after E b.site w₁.ledger ⟨w₁.store, w₁.library, []⟩ before
          rw [hdone] at hgo
          refine ⟨t, (r.script b).tasks ++ before, w'.after w₁.ledger, hpath,
            ⟨after, by rw [List.flatMap_cons, hts]; simp⟩, ?_, hmissing⟩
          rw [runAll_append, ← hrun, hr]
          exact hgo

/-! ## What tasks leave behind -/

/-- What a task that went through has done. -/
structure Task.Done {E : Template.Engine} (site : Site) (w : Workshop E) (t : Task)
    (w' : Workshop E) : Prop where
  plain : w'.store.IsPlain
  fits : (site.locate t.path).Fits
  there : (w'.store.at? (t.loc site)).isSome
  /-- What is new is listed. -/
  listed : w.store.at? (t.loc site) = none → (site.locate t.path).text ∈ w'.ledger

section Site

variable (hroot : site.root.IsPlain) (hs : w.store.IsPlain)

include hroot hs

theorem task_done (hin : IsInner t.path) (h : t.run site w = (.ok (), w')) :
    t.Done site w w' := by
  have hp : (site.locate t.path).IsPlain := Path.child_isPlain hroot hin
  have hcommand : t.runCommand site w = (.ok (), w') → t.Done site w w' := by
    intro hrun
    obtain ⟨a, ha⟩ := runCommand_ok.mp hrun
    obtain ⟨e, hd⟩ := demand?_of_ok (by rw [ha]) t.aimed
    have hplaced := perform_placed hroot hin hs hd ha
    exact ⟨hplaced.plain, hplaced.fits, by rw [Task.loc, hplaced.here]; rfl,
      fun _ => perform_recorded hd ha⟩
  unfold Task.run at h
  split at h
  · split at h
    · cases h
    · next hthere =>
      cases h
      have hsome := exists?_true hs hp hthere
      refine ⟨hs, fits_of_exists? hs hp hthere, hsome, fun hnone => ?_⟩
      rw [Task.loc, ← Option.not_isSome_iff_eq_none] at hnone
      exact absurd hsome hnone
    · exact hcommand h
  · exact hcommand h

theorem task_elsewhere (hin : IsInner t.path) :
    w.store.SameBeside (t.loc site) (t.run site w).2.store := by
  have hcommand := perform_elsewhere hroot hin hs t.aimed
  unfold Task.run
  split
  · split
    · exact .refl hs
    · exact .refl hs
    · exact hcommand
  · exact hcommand

/-- Tasks change nothing but their places and the way to them. -/
theorem runAll_elsewhere (hin : ∀ t ∈ ts, IsInner t.path) :
    (site.runAll ts w).2.store.IsPlain ∧ ∀ l, (∀ t ∈ ts, ¬ l <:+ t.loc site) →
      (site.runAll ts w).2.store.at? l = w.store.at? l := by
  induction ts generalizing w with
  | nil => exact ⟨hs, fun _ _ => rfl⟩
  | cons t ts ih =>
    obtain ⟨hfirst, hrest⟩ := List.forall_mem_cons.mp hin
    obtain ⟨hplain, hview⟩ := task_elsewhere hroot hs hfirst
    rw [Site.runAll]
    split
    · next w₁ hw =>
      rw [hw] at hplain hview
      obtain ⟨hplain', hview'⟩ := ih hplain hrest
      refine ⟨hplain', fun l hl => ?_⟩
      obtain ⟨hlfirst, hlrest⟩ := List.forall_mem_cons.mp hl
      rw [hview' l hlrest, hview l hlfirst]
    · next f w₁ hw =>
      rw [hw] at hplain hview
      exact ⟨hplain, fun l hl => hview l (hl t List.mem_cons_self)⟩

theorem runAll_fits (hin : ∀ t ∈ ts, IsInner t.path) (h : site.runAll ts w = (.ok (), w')) :
    ∀ t ∈ ts, (site.locate t.path).Fits := by
  induction ts generalizing w with
  | nil => nofun
  | cons t ts ih =>
    obtain ⟨hfirst, hrest⟩ := List.forall_mem_cons.mp hin
    unfold Site.runAll at h
    split at h
    · next w₁ hw =>
      have hdone := task_done hroot hs hfirst hw
      exact List.forall_mem_cons.mpr ⟨hdone.fits, ih hdone.plain hrest h⟩
    · cases h

end Site

end Scaffold
