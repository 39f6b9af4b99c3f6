import Scaffold.Proofs.Ledger.Commands
import Scaffold.Run

/-!
# How far a run gets

`Run.progress` is the part of a run in which recipes are followed, `Progress.conclude` what is made
of it at the end (`follow_eq_conclude`). A recipe starts with an empty ledger that is merged into
the record afterwards. A command does the same with the merged ledger (`perform_after`), so one
account is kept through all recipes of a run (`progress_audited`).
-/

namespace Scaffold

open Store
open Template (Library)

variable {E : Template.Engine}

/-- The workshop with a ledger merged into one from before. -/
def Workshop.after (created : List String) (w : Workshop E) : Workshop E :=
  { w with ledger := Record.merge created w.ledger }

variable {site : Site} {s₀ : Store} {asked blank : Loc → Prop} {w : Workshop E}
  {created : List String}

theorem merge_cons (created : List String) (key : String) (ledger : List String) :
    Record.merge created (key :: ledger) =
      Record.merge (if key ∈ created then created else created ++ [key]) ledger := by
  simp only [Record.merge, List.foldl_cons, List.contains_iff_mem]

theorem merge_append (created l₁ l₂ : List String) :
    Record.merge created (l₁ ++ l₂) = Record.merge (Record.merge created l₁) l₂ :=
  List.foldl_append

theorem mem_merge {key : String} {ledger : List String} :
    key ∈ Record.merge created ledger ↔ key ∈ created ∨ key ∈ ledger := by
  induction ledger generalizing created with
  | nil => simp [Record.merge]
  | cons k ledger ih =>
    rw [merge_cons, ih, List.mem_cons]
    split
    · next hk => grind
    · rw [List.mem_append, List.mem_singleton, or_assoc]

theorem after_store (w : Workshop E) : (w.after created).store = w.store := rfl

theorem after_library (w : Workshop E) : (w.after created).library = w.library := rfl

theorem after_ledger (w : Workshop E) : (w.after created).ledger = Record.merge created w.ledger :=
  rfl

theorem record_after (w : Workshop E) (p : Path) :
    (w.after created).record p = (w.record p).after created := by
  unfold Workshop.record
  simp only [List.contains_iff_mem, after_ledger]
  by_cases h : p.text ∈ w.ledger
  · rw [if_pos h, if_pos (mem_merge.mpr (.inr h))]
  · rw [if_neg h]
    by_cases hm : p.text ∈ Record.merge created w.ledger
    · simp only [hm, if_true, Workshop.after, merge_append, merge_cons]
      rfl
    · simp only [hm, if_false, Workshop.after, merge_append, merge_cons]
      rfl

/-- The outcome of the same work with a ledger from before. -/
def later (created : List String) {α : Type} (r : α × Workshop E) : α × Workshop E :=
  (r.1, r.2.after created)

theorem wrote_later (created : List String) (r : Except Fault Path × Workshop E) :
    Site.wrote (later created r) = later created (Site.wrote r) := rfl

theorem createRecorded_after (w : Workshop E) (p : Path) :
    (w.after created).createRecorded p = later created (w.createRecorded p) := by
  unfold Workshop.createRecorded
  rw [after_store]
  cases w.store.makeDirs p with
  | mk r s =>
    cases r with
    | ok _ => exact congrArg (Prod.mk _) (record_after { w with store := s } p)
    | error f => rfl

theorem createAll_after (w : Workshop E) (ps : List Path) :
    (w.after created).createAll ps = later created (w.createAll ps) := by
  induction ps generalizing w with
  | nil => rfl
  | cons p ps ih =>
    unfold Workshop.createAll
    rw [createRecorded_after]
    cases w.createRecorded p with
    | mk r w =>
      cases r with
      | ok _ => exact ih w
      | error f => rfl

theorem ensureParents_after (w : Workshop E) (p : Path) :
    site.ensureParents (w.after created) p = later created (site.ensureParents w p) := by
  unfold Site.ensureParents
  rw [after_store]
  cases Site.missingAncestors site.root w.store p with
  | error f => rfl
  | ok missing => exact createAll_after w missing

theorem writeFile_after (w : Workshop E) (path : String) (content : Content) :
    site.writeFile (w.after created) path content =
      later created (site.writeFile w path content) := by
  unfold Site.writeFile
  simp only [ensureParents_after]
  cases site.ensureParents w (site.locate path) with
  | mk r w =>
    cases r with
    | error f => rfl
    | ok _ =>
      simp only [later]
      rw [after_store]
      cases w.store.writeBelow (site.locate path) content with
      | mk r s =>
        cases r with
        | ok _ => exact congrArg (Prod.mk _) (record_after { w with store := s } _)
        | error f => rfl

theorem createDirectory_after (w : Workshop E) (path : String) :
    site.createDirectory (w.after created) path =
      later created (site.createDirectory w path) := by
  unfold Site.createDirectory
  simp only [ensureParents_after]
  cases site.ensureParents w (site.locate path) with
  | mk r w =>
    cases r with
    | error f => rfl
    | ok _ =>
      simp only [later, createRecorded_after]
      cases w.createRecorded (site.locate path) with
      | mk r w => cases r <;> rfl

theorem put_after (w : Workshop E) (path : String) (x : Order) :
    site.put (w.after created) path x = later created (site.put w path x) := by
  cases x with
  | file content => exact writeFile_after w path content
  | directory => exact createDirectory_after w path

theorem order?_after (w : Workshop E) (c : Command) :
    site.order? (w.after created) c = site.order? w c := by
  cases c <;> rfl

theorem libraryAfter_after (w : Workshop E) (c : Command) :
    site.libraryAfter (w.after created) c = site.libraryAfter w c := by
  cases c <;> rfl

/-- A command does the same whatever was recorded before it. -/
theorem perform_after (w : Workshop E) (c : Command) :
    site.perform (w.after created) c = later created (site.perform w c) := by
  cases ho : site.order? w c with
  | some order =>
    obtain ⟨path, x⟩ := order
    rw [perform_of_order ho, perform_of_order ((order?_after w c).trans ho), libraryAfter_after,
      ← wrote_later]
    exact congrArg Site.wrote (put_after { w with library := site.libraryAfter w c } path x)
  | none =>
    cases c with
    | writeFile | createDirectory | writeJson => cases ho
    | renderTemplate template path data =>
      have hr := Option.map_eq_none_iff.mp ho
      cases hres : w.library.render w.store template (data.getD site.defaults) with
      | mk r lib =>
        rw [hres] at hr
        cases r with
        | ok content => cases hr
        | error f => simp only [Site.perform, after_store, after_library, hres]; rfl
    | copyStatic source path =>
      have hr := Option.map_eq_none_iff.mp ho
      cases hres : w.library.readStatic w.store source with
      | ok text => rw [hres] at hr; cases hr
      | error f => simp only [Site.perform, after_store, after_library, hres]; rfl
    | pathExists path => rfl

theorem request?_after (w : Workshop E) (c : Command) :
    site.request? (w.after created) c = site.request? w c := by
  rw [Site.request?, order?_after, Site.request?]

theorem blank?_after (w : Workshop E) (c : Command) :
    site.blank? (w.after created) c = site.blank? w c := by
  rw [Site.blank?, perform_after, request?_after]
  rfl

/-! ## Scripts -/

namespace Script

/-- The commands of a script, each with the workshop that it is carried out in. -/
def trace (site : Site) : Script → Workshop E → List (Workshop E × Command)
  | done, _ => []
  | fail _, _ => []
  | call c next, w =>
    let result := site.perform w c
    (w, c) :: trace site (next result.1) result.2

/-- The paths that the commands of a script pass on to be written or created. -/
def requests (site : Site) (script : Script) (w : Workshop E) : List String :=
  (script.trace site w).filterMap fun (w, c) => site.request? w c

/-- Those of them that are to be written in vain. -/
def blanks (site : Site) (script : Script) (w : Workshop E) : List String :=
  (script.trace site w).filterMap fun (w, c) => site.blank? w c

end Script

theorem run_call (site : Site) (c : Command) (next : Except Fault Answer → Script)
    (w : Workshop E) : (Script.call c next).run site w =
      (next (site.perform w c).1).run site (site.perform w c).2 := rfl

theorem run_extends (site : Site) (script : Script) (w : Workshop E) :
    w.Extends (script.run site w).2 := by
  induction script generalizing w with
  | done => exact .refl w
  | fail f => exact .refl w
  | call c next ih =>
    rw [run_call]
    exact (perform_extends site w c).trans (ih _ _)

theorem forall_mem_filterMap_cons {α β : Type} {f : α → Option β} {P : β → Prop} {a : α}
    {l : List α} : (∀ x ∈ (a :: l).filterMap f, P x) ↔
      (∀ x, f a = some x → P x) ∧ ∀ x ∈ l.filterMap f, P x := by
  simp only [List.mem_filterMap, List.mem_cons]
  grind

/-- A script keeps an account that its ledger is merged into. -/
theorem run_audited {script : Script} (hroot : site.root.IsPlain)
    (h : (w.after created).Audited site.root s₀ asked blank)
    (hreq : ∀ path ∈ script.requests site w, IsInner path ∧ asked (site.locate path).loc)
    (hblank : ∀ path ∈ script.blanks site w, blank (site.locate path).loc) :
    ((script.run site w).2.after created).Audited site.root s₀ asked blank := by
  induction script generalizing w with
  | done => exact h
  | fail f => exact h
  | call c next ih =>
    rw [Script.requests, Script.trace, forall_mem_filterMap_cons] at hreq
    rw [Script.blanks, Script.trace, forall_mem_filterMap_cons] at hblank
    have hstep := perform_audited hroot h (by rw [request?_after]; exact hreq.1)
      (by rw [blank?_after]; exact hblank.1)
    rw [perform_after] at hstep
    rw [run_call]
    exact ih _ hstep hreq.2 hblank.2

/-! ## Runs -/

/-- How far a run got: the recipe that failed and why, if one did. -/
structure Progress (E : Template.Engine) where
  failure? : Option (String × Fault)
  record : Record
  world : Run.World E

namespace Run

/-- Follows recipes up to the first that fails. -/
def progress (b : Blueprint) : List Recipe → Record → World E → Progress E
  | [], record, world => ⟨none, record, world⟩
  | r :: rest, record, world =>
    let (result, w) := r.run b world.store world.library
    let record := record.collect r.name w.ledger
    let world : World E := ⟨w.store, w.library⟩
    match result with
    | .ok () => progress b rest record world
    | .error f => ⟨some (r.name, f), record, world⟩

/-- What recipes leave on the disk, before anything is undone. -/
def leftBy (b : Blueprint) (recipes : List Recipe) (world : World E) : Store :=
  (progress b recipes .empty world).world.store

/-- The commands of recipes, up to the first that fails, each with the workshop that it is carried
out in. -/
def trace (b : Blueprint) : List Recipe → World E → List (Workshop E × Command)
  | [], _ => []
  | r :: rest, world =>
    let w := r.run b world.store world.library
    (r.script b).trace b.site ⟨world.store, world.library, []⟩ ++
      match w.1 with
      | .ok () => trace b rest ⟨w.2.store, w.2.library⟩
      | .error _ => []

/-- The paths that recipes pass on to be written or created. -/
def requests (b : Blueprint) (recipes : List Recipe) (world : World E) : List String :=
  (trace b recipes world).filterMap fun (w, c) => b.site.request? w c

/-- Those of them that are to be written in vain. -/
def blanks (b : Blueprint) (recipes : List Recipe) (world : World E) : List String :=
  (trace b recipes world).filterMap fun (w, c) => b.site.blank? w c

/-- A place that is passed on to be written or created during a run. -/
def IsRequested (b : Blueprint) (recipes : List Recipe) (world : World E) (loc : Loc) : Prop :=
  ∃ path ∈ requests b recipes world, (b.site.locate path).loc = loc

/-- A place where a file is to be written in vain during a run: it is opened, but the text has no
form in UTF-8. -/
def IsBlank (b : Blueprint) (recipes : List Recipe) (world : World E) (loc : Loc) : Prop :=
  ∃ path ∈ blanks b recipes world, (b.site.locate path).loc = loc

theorem requests_of_blanks {b : Blueprint} {recipes : List Recipe} {world : World E}
    {path : String} (h : path ∈ blanks b recipes world) : path ∈ requests b recipes world := by
  obtain ⟨step, hin, hb⟩ := List.mem_filterMap.mp h
  exact List.mem_filterMap.mpr ⟨step, hin, (blank?_eq_some_iff.mp hb).2⟩

instance (b : Blueprint) (recipes : List Recipe) (world : World E) (loc : Loc) :
    Decidable (IsRequested b recipes world loc) := by unfold IsRequested; infer_instance

end Run

open Run (World)

/-- What a run makes of how far it got. -/
def Progress.conclude (opts : Options) (root : Path) (rootExisted : Bool) (p : Progress E) :
    Except Breakdown Record × World E :=
  match p.failure? with
  | none => (report (p.record.notice root) (.ok p.record), p.world)
  | some (name, f) => Run.fail opts root rootExisted name f p.record.created p.world

/-- The state of a run as a workshop. -/
def workshop (record : Record) (world : World E) : Workshop E :=
  ⟨world.store, world.library, record.created⟩

variable {b : Blueprint} {recipes : List Recipe} {record : Record} {world : World E}

theorem follow_eq_conclude (opts : Options) (b : Blueprint) (rootExisted : Bool)
    (recipes : List Recipe) (record : Record) (world : World E) :
    Run.follow opts b rootExisted recipes record world =
      (Run.progress b recipes record world).conclude opts b.site.root rootExisted := by
  induction recipes generalizing record world with
  | nil => rfl
  | cons r rest ih =>
    unfold Run.follow Run.progress
    cases r.run b world.store world.library with
    | mk result w =>
      cases result with
      | ok _ => exact ih _ _
      | error f => rfl

theorem progress_keeps (b : Blueprint) (recipes : List Recipe) (record : Record) (world : World E) :
    world.store.Keeps (Run.progress b recipes record world).world.store := by
  induction recipes generalizing record world with
  | nil => exact .refl _
  | cons r rest ih =>
    have hrun : world.store.Keeps (r.run b world.store world.library).2.store :=
      (run_extends b.site (r.script b) ⟨world.store, world.library, []⟩).store
    unfold Run.progress
    cases hr : r.run b world.store world.library with
    | mk result w =>
      rw [hr] at hrun
      cases result with
      | ok _ => exact hrun.trans (ih (record.collect r.name w.ledger) ⟨w.store, w.library⟩)
      | error f => exact hrun

/-- A run keeps an account of all that its recipes ask for. -/
theorem progress_audited (hroot : b.site.root.IsPlain)
    (h : (workshop record world).Audited b.site.root s₀ asked blank)
    (hreq : ∀ path ∈ Run.requests b recipes world,
      IsInner path ∧ asked (b.site.locate path).loc)
    (hblank : ∀ path ∈ Run.blanks b recipes world, blank (b.site.locate path).loc) :
    (workshop (Run.progress b recipes record world).record
      (Run.progress b recipes record world).world).Audited b.site.root s₀ asked blank := by
  induction recipes generalizing record world with
  | nil => exact h
  | cons r rest ih =>
    rw [Run.requests, Run.trace, List.filterMap_append, List.forall_mem_append] at hreq
    rw [Run.blanks, Run.trace, List.filterMap_append, List.forall_mem_append] at hblank
    have hrun : ((r.run b world.store world.library).2.after record.created).Audited
        b.site.root s₀ asked blank := run_audited hroot h hreq.1 hblank.1
    unfold Run.progress
    cases hr : r.run b world.store world.library with
    | mk result w =>
      rw [hr] at hrun hreq hblank
      cases result with
      | ok _ => exact ih hrun hreq.2 hblank.2
      | error f => exact hrun

end Scaffold
