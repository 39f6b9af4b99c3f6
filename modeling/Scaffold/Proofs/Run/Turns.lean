import Scaffold.Proofs.Ledger.Present
import Scaffold.Proofs.Run.Frame

/-!
# Recipes take turns

`Run.turns` lists the recipes that a run follows, each with what became of it and the workshop that
it left. A run is told by its turns (`scaffold_takes_turns`): they are the recipes in their order up
to the first that fails, the record puts their ledgers together, and whatever comes after a failure
has no part in the run. In the end all recorded paths are present, so undoing them is refused at
most for the root of a disk that nothing is left on.
-/

namespace Scaffold

open Store
open Run (World)

/-- A recipe's part in a run. -/
structure Turn (E : Template.Engine) where
  recipe : Recipe
  result : Except Fault Unit
  /-- What the recipe left, with its own ledger. -/
  shop : Workshop E

variable {E : Template.Engine}

def Turn.failure? (t : Turn E) : Option (String × Fault) :=
  match t.result with
  | .ok () => none
  | .error f => some (t.recipe.name, f)

namespace Run

/-- The turns of recipes up to the first that fails. -/
def turns (b : Blueprint) : List Recipe → World E → List (Turn E)
  | [], _ => []
  | r :: rest, world =>
    let (result, w) := r.run b world.store world.library
    ⟨r, result, w⟩ :: match result with
      | .ok () => turns b rest ⟨w.store, w.library⟩
      | .error _ => []

def leftAfter (world : World E) : List (Turn E) → World E
  | [] => world
  | t :: ts => leftAfter ⟨t.shop.store, t.shop.library⟩ ts

/-- The ledgers of turns put together: every path once, where it comes first, and each ledger under
the name of its recipe. -/
def recordOf (ts : List (Turn E)) : Record where
  created := (ts.flatMap fun t => t.shop.ledger).eraseDups
  byRecipe := ts.map fun t => (t.recipe.name, t.shop.ledger)

end Run

open Run (turns leftAfter recordOf)

variable {opts : Options} {b : Blueprint} {recipes others : List Recipe} {world : World E}
  {record : Record} {ts done before after : List (Turn E)} {t : Turn E} {f : Fault} {existed : Bool}

theorem eraseDups_concat (keys : List String) (key : String) :
    (keys ++ [key]).eraseDups =
      if key ∈ keys then keys.eraseDups else keys.eraseDups ++ [key] := by
  rw [List.eraseDups_append]
  by_cases h : key ∈ keys
  · simp [List.removeAll, h]
  · simp [List.removeAll, h, List.eraseDups_cons]

theorem merge_eraseDups (keys ledger : List String) :
    Record.merge keys.eraseDups ledger = (keys ++ ledger).eraseDups := by
  induction ledger generalizing keys with
  | nil => simp [Record.merge]
  | cons key ledger ih =>
    have hstep : (if key ∈ keys.eraseDups then keys.eraseDups else keys.eraseDups ++ [key]) =
        (keys ++ [key]).eraseDups := by
      rw [eraseDups_concat]
      simp only [List.mem_eraseDups]
    rw [merge_cons, hstep, ih, List.append_assoc, List.singleton_append]

theorem putLedger_of_new {name : String} {ledger : List String}
    {l : List (String × List String)} (h : name ∉ l.map (·.1)) :
    Record.putLedger name ledger l = l ++ [(name, ledger)] := by
  induction l with
  | nil => rfl
  | cons e l ih =>
    rw [List.map_cons, List.mem_cons, not_or] at h
    rw [Record.putLedger, if_neg (Ne.symm h.1), ih h.2, List.cons_append]

theorem collect_recordOf (h : t.recipe.name ∉ done.map (·.recipe.name)) :
    (recordOf done).collect t.recipe.name t.shop.ledger = recordOf (done ++ [t]) := by
  have hnew : t.recipe.name ∉ (recordOf done).byRecipe.map (·.1) := by
    simpa [recordOf, Function.comp_def] using h
  rw [Record.collect, putLedger_of_new hnew]
  simp [recordOf, merge_eraseDups]

/-! ## Turns -/

theorem turns_cons (b : Blueprint) (r : Recipe) (rest : List Recipe) (world : World E) :
    turns b (r :: rest) world =
      ⟨r, (r.run b world.store world.library).1, (r.run b world.store world.library).2⟩ ::
        match (r.run b world.store world.library).1 with
        | .ok () => turns b rest ⟨(r.run b world.store world.library).2.store,
            (r.run b world.store world.library).2.library⟩
        | .error _ => [] := rfl

theorem turns_cons_of_ok {r : Recipe} {rest : List Recipe} {w : Workshop E}
    (h : r.run b world.store world.library = (.ok (), w)) :
    turns b (r :: rest) world = ⟨r, .ok (), w⟩ :: turns b rest ⟨w.store, w.library⟩ := by
  rw [turns_cons, h]

theorem turns_cons_of_error {r : Recipe} {rest : List Recipe} {w : Workshop E}
    (h : r.run b world.store world.library = (.error f, w)) :
    turns b (r :: rest) world = [⟨r, .error f, w⟩] := by
  rw [turns_cons, h]

theorem turns_recipes (b : Blueprint) (recipes : List Recipe) (world : World E) :
    (turns b recipes world).map (·.recipe) <+: recipes := by
  induction recipes generalizing world with
  | nil => exact List.prefix_rfl
  | cons r rest ih =>
    cases hr : r.run b world.store world.library with
    | mk result w =>
      cases result with
      | ok _ =>
        rw [turns_cons_of_ok hr, List.map_cons]
        exact List.cons_prefix_cons.mpr ⟨rfl, ih ⟨w.store, w.library⟩⟩
      | error f =>
        rw [turns_cons_of_error hr]
        exact List.cons_prefix_cons.mpr ⟨rfl, List.nil_prefix⟩

theorem turns_all (h : ∀ t ∈ turns b recipes world, t.result = .ok ()) :
    (turns b recipes world).map (·.recipe) = recipes := by
  induction recipes generalizing world with
  | nil => rfl
  | cons r rest ih =>
    cases hr : r.run b world.store world.library with
    | mk result w =>
      cases result with
      | ok _ =>
        rw [turns_cons_of_ok hr] at h ⊢
        rw [List.map_cons, ih fun t ht => h t (List.mem_cons_of_mem _ ht)]
      | error f =>
        rw [turns_cons_of_error hr] at h
        cases h _ List.mem_cons_self

/-- Each turn begins with what the turns before it left, and only the last can fail. -/
theorem turns_chain (h : turns b recipes world = before ++ t :: after) :
    (t.result, t.shop) =
        t.recipe.run b (leftAfter world before).store (leftAfter world before).library ∧
      (after ≠ [] → t.result = .ok ()) := by
  induction recipes generalizing world before with
  | nil => simp [turns] at h
  | cons r rest ih =>
    cases hr : r.run b world.store world.library with
    | mk result w =>
      cases result with
      | ok _ =>
        rw [turns_cons_of_ok hr] at h
        cases before with
        | nil =>
          obtain ⟨rfl, -⟩ := List.cons.inj h
          exact ⟨hr.symm, fun _ => rfl⟩
        | cons t₀ before =>
          obtain ⟨rfl, hrest⟩ := List.cons.inj h
          have hstep := ih hrest
          exact hstep
      | error f =>
        rw [turns_cons_of_error hr] at h
        cases before with
        | nil =>
          obtain ⟨rfl, hnil⟩ := List.cons.inj h
          exact ⟨hr.symm, fun hne => absurd hnil.symm hne⟩
        | cons t₀ before => simp at h

/-- Recipes after a failed one change nothing about how far a run gets. -/
theorem progress_append_of_failed (h : ∃ t ∈ turns b recipes world, t.result ≠ .ok ()) :
    Run.progress b ((turns b recipes world).map (·.recipe) ++ others) record world =
      Run.progress b recipes record world := by
  induction recipes generalizing record world with
  | nil => simp [turns] at h
  | cons r rest ih =>
    cases hr : r.run b world.store world.library with
    | mk result w =>
      cases result with
      | ok _ =>
        rw [turns_cons_of_ok hr] at h ⊢
        simp only [List.map_cons, List.cons_append, Run.progress, hr]
        refine ih ?_
        obtain ⟨t, ht, hne⟩ := h
        rcases List.mem_cons.mp ht with rfl | ht
        · exact absurd rfl hne
        · exact ⟨t, ht, hne⟩
      | error f =>
        rw [turns_cons_of_error hr]
        simp only [List.map_cons, List.cons_append, Run.progress, hr]

theorem leftAfter_concat (world : World E) (ts : List (Turn E)) (t : Turn E) :
    leftAfter world (ts ++ [t]) = ⟨t.shop.store, t.shop.library⟩ := by
  induction ts generalizing world with
  | nil => rfl
  | cons t₀ ts ih => exact ih _

/-- How far a run gets, after some turns were taken already. -/
theorem progress_recordOf (done : List (Turn E))
    (hnames : (done.map (·.recipe.name) ++ recipes.map (·.name)).Nodup) :
    Run.progress b recipes (recordOf done) world =
      ⟨(turns b recipes world).getLast?.bind Turn.failure?,
        recordOf (done ++ turns b recipes world), leftAfter world (turns b recipes world)⟩ := by
  induction recipes generalizing done world with
  | nil => simp [Run.progress, turns, leftAfter]
  | cons r rest ih =>
    have hnew : r.name ∉ done.map (·.recipe.name) := by
      intro hm
      exact (List.nodup_append.mp hnames).2.2 _ hm _ List.mem_cons_self rfl
    cases hr : r.run b world.store world.library with
    | mk result w =>
      have hcollect := collect_recordOf (t := ⟨r, result, w⟩) hnew
      cases result with
      | ok _ =>
        have hrest : ((done ++ [(⟨r, .ok (), w⟩ : Turn E)]).map (·.recipe.name) ++
            rest.map (·.name)).Nodup := by simpa using hnames
        rw [turns_cons_of_ok hr]
        simp only [Run.progress, hr]
        rw [hcollect, ih _ hrest, List.append_assoc, List.singleton_append]
        congr 1
        cases turns b rest ⟨w.store, w.library⟩ with
        | nil => rfl
        | cons t ts => rw [List.getLast?_cons_cons]
      | error f =>
        rw [turns_cons_of_error hr]
        simp only [Run.progress, hr]
        rw [hcollect]
        rfl

/-- A run as its turns tell it. -/
theorem progress_eq_turns (hnames : (recipes.map (·.name)).Nodup) :
    Run.progress b recipes .empty world =
      ⟨(turns b recipes world).getLast?.bind Turn.failure?, recordOf (turns b recipes world),
        leftAfter world (turns b recipes world)⟩ :=
  progress_recordOf [] (by simpa using hnames)

/-! ## What is recorded is present -/

theorem recipe_extends (r : Recipe) (b : Blueprint) (world : World E) :
    world.store.Keeps (r.run b world.store world.library).2.store :=
  (run_extends b.site (r.script b) ⟨world.store, world.library, []⟩).store

theorem leftAfter_keeps (b : Blueprint) (recipes : List Recipe) (world : World E) :
    world.store.Keeps (leftAfter world (turns b recipes world)).store := by
  induction recipes generalizing world with
  | nil => exact .refl _
  | cons r rest ih =>
    have hrun := recipe_extends r b world
    cases hr : r.run b world.store world.library with
    | mk result w =>
      rw [hr] at hrun
      cases result with
      | ok _ => rw [turns_cons_of_ok hr]; exact hrun.trans (ih ⟨w.store, w.library⟩)
      | error f => rw [turns_cons_of_error hr]; exact hrun

theorem site_root_isFull (b : Blueprint) : b.site.root.IsFull :=
  ⟨anchor_target b, Path.isRead_ofString _⟩

theorem ledgers_present (b : Blueprint) (recipes : List Recipe) (world : World E) :
    ∀ t ∈ turns b recipes world, ∀ key ∈ t.shop.ledger,
      (leftAfter world (turns b recipes world)).store.IsPresent (Path.ofString key) := by
  induction recipes generalizing world with
  | nil => intro t ht; cases ht
  | cons r rest ih =>
    have hrun : (r.run b world.store world.library).2.IsPresent :=
      run_present (site_root_isFull b) (by intro key hk; cases hk) (r.script b)
    cases hr : r.run b world.store world.library with
    | mk result w =>
      rw [hr] at hrun
      cases result with
      | ok _ =>
        rw [turns_cons_of_ok hr]
        intro t ht key hk
        rcases List.mem_cons.mp ht with rfl | ht
        · exact (leftAfter_keeps b rest ⟨w.store, w.library⟩).present (hrun key hk)
        · exact ih ⟨w.store, w.library⟩ t ht key hk
      | error f =>
        rw [turns_cons_of_error hr]
        intro t ht key hk
        rw [List.mem_singleton.mp ht] at hk
        exact hrun key hk

theorem recordOf_present (b : Blueprint) (recipes : List Recipe) (world : World E) :
    ∀ key ∈ (recordOf (turns b recipes world)).created,
      (leftAfter world (turns b recipes world)).store.IsPresent (Path.ofString key) := by
  intro key hk
  obtain ⟨t, ht, hkey⟩ := List.mem_flatMap.mp (List.mem_eraseDups.mp hk)
  exact ledgers_present b recipes world t ht key hkey

/-- Removing paths that were all present before the store shrank is refused at most for the root of
a disk that nothing is left on. -/
theorem removeAll_of_present {s u : Store} {keys : List String} (h : u.Keeps s)
    (hp : ∀ key ∈ keys, s.IsPresent (Path.ofString key)) :
    (∃ removed v, Run.removeAll u keys = (.ok removed, v)) ∨
      ∃ g v, Run.removeAll u keys = (.error g, v) ∧
        ∃ key ∈ keys, v.NamesBareRoot (Path.ofString key) := by
  induction keys generalizing u with
  | nil => exact .inl ⟨[], u, rfl⟩
  | cons key keys ih =>
    cases hr : u.removePath (Path.ofString key) with
    | error g =>
      refine .inr ⟨g, u, by simp only [Run.removeAll, hr], key, List.mem_cons_self,
        Decidable.byContradiction fun hbare => ?_⟩
      obtain ⟨r, hok⟩ := h.removePath_of_present (hp key List.mem_cons_self) hbare
      rw [hr] at hok
      cases hok
    | ok r =>
      obtain ⟨gone, v⟩ := r
      have hrest := ih ((removePath_keeps hr).trans h) fun k hk => hp k (List.mem_cons_of_mem _ hk)
      rcases hrest with ⟨removed, v', hv'⟩ | ⟨g, v', hv', k, hk, hbare⟩
      · exact .inl ⟨_, _, by simp only [Run.removeAll, hr, hv']; rfl⟩
      · exact .inr ⟨g, v', by simp only [Run.removeAll, hr, hv']; rfl, k,
          List.mem_cons_of_mem _ hk, hbare⟩

/-- Undoing a run whose record is present comes to its end, or to where a link leads to too long a
name, or to the root of a disk that nothing is left on. -/
theorem undoRun_of_present {s : Store} {root : Path} {created : List String}
    (hshort : root.IsShort) (hp : ∀ key ∈ created, s.IsPresent (Path.ofString key)) :
    (∃ v, Run.undoRun s root existed created = (.ok (), v)) ∨
      ∃ g u, Run.undoRun s root existed created = (.error g, u) ∧
        ((existed = false ∧ u.HasLongLink ∧ ∃ removed, Run.undo s created = (.ok removed, u)) ∨
          ∃ p ∈ doomed root existed created, u.NamesBareRoot p) := by
  rcases removeAll_of_present (.refl s) fun key hk => hp key (List.mem_reverse.mp hk) with
    ⟨removed, u, hu⟩ | ⟨g, u, hu, key, hk, hbare⟩
  · cases existed with
    | true => exact .inl ⟨u, by simp only [Run.undoRun, Run.undo, hu]; rfl⟩
    | false =>
      cases hrm : u.removePath root with
      | ok r =>
        exact .inl ⟨r.2, by
          simp only [Run.undoRun, Run.undo, hu, hrm, Bool.false_eq_true, if_false]⟩
      | error g =>
        refine .inr ⟨g, u, by
          simp only [Run.undoRun, Run.undo, hu, hrm, Bool.false_eq_true, if_false], ?_⟩
        rcases removePath_error hshort hrm with hlong | hbare
        · exact .inl ⟨rfl, hlong, removed, hu⟩
        · exact .inr ⟨root, by simp [doomed], hbare⟩
  · refine .inr ⟨g, u, by simp only [Run.undoRun, Run.undo, hu], .inr ⟨_, ?_, hbare⟩⟩
    exact List.mem_append_left _ (List.mem_map_of_mem hk)

/-! ## The whole run -/

/-- How a run goes, told by its turns. -/
structure TakesTurns (opts : Options) (b : Blueprint) (recipes : List Recipe) (world : World E)
    (existed : Bool) (ts : List (Turn E)) : Prop where
  /-- The turns are those of the recipes in their order, from the first on. -/
  in_order : ts.map (·.recipe) <+: recipes
  /-- Each begins with what those before it left, and only the last can fail. -/
  chain : ∀ before t after, ts = before ++ t :: after →
    (t.result, t.shop) =
        t.recipe.run b (leftAfter world before).store (leftAfter world before).library ∧
      (after ≠ [] → t.result = .ok ())
  /-- If none fails, every recipe has its turn, and the run gives the ledgers put together. -/
  through : (∀ t ∈ ts, t.result = .ok ()) → ts.map (·.recipe) = recipes ∧
    Run.scaffold opts b recipes world =
      (report ((recordOf ts).notice b.site.root) (.ok (recordOf ts)), leftAfter world ts)
  /-- After a failure it makes no difference which recipes would have come next. -/
  stopped : (∃ t ∈ ts, t.result ≠ .ok ()) → ∀ others,
    Run.scaffold opts b (ts.map (·.recipe) ++ others) world = Run.scaffold opts b recipes world
  /-- A failure that is not to be undone leaves everything as it is, and tells the ledgers put
  together. -/
  kept : opts.undoOnFailure = false → ∀ before t f, ts = before ++ [t] → t.result = .error f →
    Run.scaffold opts b recipes world =
      (Failure.report ⟨t.recipe.name, f, (recordOf ts).created, false⟩,
        ⟨t.shop.store, t.shop.library⟩)
  /-- If it is to be undone, that is refused in two cases only: everything recorded is gone, and a
  link leads from the root to too long a name; or the turn of the root of the disk comes and nothing
  is left on it. -/
  undone : opts.undoOnFailure = true → ∀ before t f, ts = before ++ [t] → t.result = .error f →
    (∃ v, Run.undoRun t.shop.store b.site.root existed (recordOf ts).created = (.ok (), v) ∧
      Run.scaffold opts b recipes world =
        (Failure.report ⟨t.recipe.name, f, (recordOf ts).created, true⟩, ⟨v, t.shop.library⟩)) ∨
    ∃ g u, Run.scaffold opts b recipes world =
        (.error (.whileUndoing g), ⟨u, t.shop.library⟩) ∧
      ((existed = false ∧ u.HasLongLink ∧
          ∃ removed, Run.undo t.shop.store (recordOf ts).created = (.ok removed, u)) ∨
        ∃ p ∈ doomed b.site.root existed (recordOf ts).created, u.NamesBareRoot p)
  /-- Before anything is undone each recorded path is present. -/
  present : ∀ key ∈ (recordOf ts).created,
    (leftAfter world ts).store.IsPresent (Path.ofString key)

theorem getLast?_failure (h : ts = before ++ [t]) (hf : t.result = .error f) :
    ts.getLast?.bind Turn.failure? = some (t.recipe.name, f) := by
  rw [h, List.getLast?_append]
  simp [Turn.failure?, hf]

theorem getLast?_no_failure (h : ∀ t ∈ ts, t.result = .ok ()) :
    ts.getLast?.bind Turn.failure? = none := by
  cases hl : ts.getLast? with
  | none => rfl
  | some t => simp [Turn.failure?, h t (List.mem_of_getLast? hl)]

theorem takesTurns (opts : Options) (hnames : (recipes.map (·.name)).Nodup)
    (hshort : b.site.root.IsShort) (hex : world.store.exists? b.site.root = .ok existed) :
    TakesTurns opts b recipes world existed (turns b recipes world) := by
  have hprogress := @progress_eq_turns E b recipes world hnames
  have hpresent := recordOf_present b recipes world
  constructor
  case in_order => exact turns_recipes b recipes world
  case chain => exact fun before t after h => turns_chain h
  case through =>
    intro hok
    refine ⟨turns_all hok, ?_⟩
    rw [scaffold_eq_conclude hex, hprogress, getLast?_no_failure hok]
    rfl
  case stopped =>
    intro hfailed others
    rw [scaffold_eq_conclude hex, scaffold_eq_conclude hex, progress_append_of_failed hfailed]
  case kept =>
    intro hundo before t f hts hf
    rw [scaffold_eq_conclude hex, hprogress, getLast?_failure hts hf]
    simp only [Progress.conclude, Run.fail, hundo, Bool.false_eq_true, if_false]
    rw [hts, leftAfter_concat]
  case undone =>
    intro hundo before t f hts hf
    have hleft : leftAfter world (turns b recipes world) = ⟨t.shop.store, t.shop.library⟩ := by
      rw [hts, leftAfter_concat]
    rw [hleft] at hpresent
    have hrun : Run.scaffold opts b recipes world = Run.fail opts b.site.root existed t.recipe.name
        f (recordOf (turns b recipes world)).created ⟨t.shop.store, t.shop.library⟩ := by
      rw [scaffold_eq_conclude hex, hprogress, getLast?_failure hts hf, hleft]
      rfl
    rcases undoRun_of_present hshort hpresent with ⟨v, hv⟩ | ⟨g, u, hu, hwhy⟩
    · exact .inl ⟨v, hv, by simp only [hrun, Run.fail, hundo, if_true, hv]⟩
    · exact .inr ⟨g, u, by simp only [hrun, Run.fail, hundo, if_true, hu], hwhy⟩
  case present => exact hpresent

/-- **Recipes take turns.** For recipes of different names and a root that is not too long, a run
either cannot even ask for its root, because a link leads to too long a name, or goes as its turns
tell. -/
theorem scaffold_takes_turns (opts : Options) (hnames : (recipes.map (·.name)).Nodup)
    (hshort : b.site.root.IsShort) :
    (∃ f, world.store.HasLongLink ∧
      Run.scaffold opts b recipes world = (.error (.early f), world)) ∨
    ∃ existed, world.store.exists? b.site.root = .ok existed ∧
      TakesTurns opts b recipes world existed (turns b recipes world) := by
  cases hex : world.store.exists? b.site.root with
  | error f => exact .inl ⟨f, exists?_error hshort hex, scaffold_early hex⟩
  | ok existed => exact .inr ⟨existed, rfl, takesTurns opts hnames hshort hex⟩

def writingRecipe (name path : String) : Recipe :=
  ⟨name, fun _ => .ofCommands [.writeFile path "text"]⟩

/-- The second recipe fails, and the third has no turn. -/
theorem scaffold_takes_turns_of_failure :
    let recipes := [writingRecipe "First" "src/app.js",
      brokenRecipe [.writeFile "src/app.js" "text", .createDirectory "docs"],
      writingRecipe "Last" "last.txt"]
    let ts := turns sampleBlueprint recipes sampleWorld
    (recipes.map (·.name)).Nodup ∧ sampleBlueprint.site.root.IsShort ∧
      ts.map (·.recipe.name) = ["First", "Broken"] ∧
      (recordOf ts).created = ["/srv/src", "/srv/src/app.js", "/srv/docs"] ∧
      ((∃ f, sampleWorld.store.HasLongLink ∧
        Run.scaffold .default sampleBlueprint recipes sampleWorld =
          (.error (.early f), sampleWorld)) ∨
      ∃ existed, sampleWorld.store.exists? sampleBlueprint.site.root = .ok existed ∧
        TakesTurns .default sampleBlueprint recipes sampleWorld existed ts) := by
  intro recipes ts
  have hnames : (recipes.map (·.name)).Nodup := by decide
  have hshort : sampleBlueprint.site.root.IsShort := by decide
  exact ⟨hnames, hshort, by decide, by decide,
    scaffold_takes_turns .default hnames hshort⟩

end Scaffold
