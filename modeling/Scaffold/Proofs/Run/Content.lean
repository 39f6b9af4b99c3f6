import Scaffold.Proofs.Run.Settled
import Scaffold.Proofs.Template.Supply
import Scaffold.Template.Render

/-!
# What projects hold

Where the bundled templates are in place, the content of every command of a project can be had
(`demand?_of_mem`). It does not depend on the place that the project goes to: data that differ only
in that place are akin, and from them a command puts the same.
-/

namespace Scaffold

open Store

namespace Template

variable {lib lib' : Library engine} {s t s' : Store} {data data' : Data} {path template : String}
  {tree : Tree}

/-- The bundled templates can be read in their places, and those that are kept are as they are read
there. -/
structure Library.HasBundled (lib : Library engine) (s : Store) : Prop where
  installed : ∀ e ∈ Bundled.templates, s.readText (lib.locate e.1) = .ok (sourceOf e.2)
  current : lib.IsCurrent s

/-- Simple data that differ only in the place that a project goes to. -/
structure Data.AreAkin (data data' : Data) : Prop where
  left : data.isSimple
  right : data'.isSimple
  agree : ∀ name, name ≠ targetName → data.lookup name = data'.lookup name

theorem Data.AreAkin.refl (h : data.isSimple) : data.AreAkin data := ⟨h, h, fun _ _ => rfl⟩

/-! ## Rendering -/

/-- A tame template renders as what it means, whatever was rendered before. -/
theorem renderTree_of_tame (lib : Library engine) (s : Store) (ht : tree.isTame)
    (hd : data.isSimple) :
    (lib.renderTree s tree data).1 = .ok (tree.meaning data) := by
  simp only [Library.renderTree, engine, tree.render_of_tame ht hd]
  rfl

theorem Library.HasBundled.load (h : lib.HasBundled s) {e : String × List String}
    (he : e ∈ Bundled.templates) (hc : Tree.ofSource e.1 (sourceOf e.2) = .ok tree) :
    lib.load s e.1 = .ok tree := by
  have hin := (isTemplatePath_of_mem e.1 (List.mem_map_of_mem he)).inner
  exact (Library.load_ok_iff_readText hin).mpr ⟨_, h.installed e he, hc⟩

/-- A bundled template renders, and as the same text from data that are akin. -/
theorem render_of_bundled (h : lib.HasBundled s) (h' : lib'.HasBundled s')
    (ht : template ∈ templateNames) (hd : data.AreAkin data') :
    ∃ text : String, (lib.render s template data).1 = .ok text ∧
      (lib'.render s' template data').1 = .ok text := by
  obtain ⟨e, he, rfl⟩ := List.mem_map.mp ht
  obtain ⟨tree, hcompile, hportable⟩ := bundled_isPortable e he
  obtain ⟨htame, hslots⟩ := and_eq_true_imp hportable
  have hpath := isTemplatePath_of_mem e.1 ht
  have hsame : tree.meaning data = tree.meaning data' := by
    refine Tree.meaning_congr fun slot hslot => hd.agree _ ?_
    simpa using List.all_eq_true.mp hslots slot hslot
  refine ⟨tree.meaning data, ?_, ?_⟩
  · rw [h.current.render_fst hpath, h.load he hcompile]
    exact renderTree_of_tame lib s htame hd.left
  · rw [h'.current.render_fst hpath, h'.load he hcompile, hsame]
    exact renderTree_of_tame lib' s' htame hd.right

/-- Templates that stay where they are can still be read. -/
theorem Library.HasBundled.of_spares (h : lib.HasBundled s) (hroot : lib'.root = lib.root)
    (hsp : s.Spares IsTemplateName t) (hk : s.Keeps t)
    (hl : ∀ l target, s.at? l ≠ some (.link target)) (hcur : lib'.IsCurrent t) :
    lib'.HasBundled t where
  installed e he := by
    obtain ⟨name, hname, hlast, hdots⟩ :=
      lib.locate_last (isTemplatePath_of_mem e.1 (List.mem_map_of_mem he))
    have hplace : lib'.locate e.1 = lib.locate e.1 := by
      rw [Library.locate, Library.locate, hroot]
    rw [hplace]
    exact hsp.readText hk hl hlast hdots hname (h.installed e he)
  current := hcur

theorem Library.HasBundled.render (h : lib.HasBundled s)
    (hl : ∀ l target, s.at? l ≠ some (.link target)) (path : String) (data : Data) :
    (lib.render s path data).2.HasBundled s :=
  h.of_spares (lib.render_root s path data) (.refl _ s) (.refl s) hl
    (h.current.render_snd path data)

def bundledPlace (path : String) : Loc := (Bundled.root.child path).loc

theorem at?_withDirectory {loc l : Loc} (h : ¬ l <:+ loc) :
    (Bundled.withDirectory s loc).at? l = s.at? l := by
  induction loc with
  | nil => rfl
  | cons name outer ih =>
    obtain ⟨hne, houter⟩ := not_or.mp (List.suffix_cons_iff.not.mp h)
    unfold Bundled.withDirectory
    simp only
    split
    · exact ih houter
    · rw [at?_insert_of_ne hne, ih houter]

theorem at?_installOne {l : Loc} {lines : List String} (h : ¬ l <:+ bundledPlace path) :
    (Bundled.installOne s path lines).at? l = s.at? l := by
  have hdir : ¬ l <:+ (bundledPlace path).tail := fun hl => h (hl.trans (List.tail_suffix _))
  have hne : l ≠ bundledPlace path := fun he => h (he ▸ List.suffix_rfl)
  exact (at?_insert_of_ne hne).trans (at?_withDirectory hdir)

/-- Templates are in their places once they are installed, if none is on the way to another. -/
theorem at?_installed {es : List (String × List String)}
    (h : (es.map fun e => bundledPlace e.1).Pairwise fun l m => ¬ l <:+ m)
    (hne : ∀ e ∈ es, bundledPlace e.1 ≠ []) : ∀ e ∈ es,
      (es.foldl (fun s e => Bundled.installOne s e.1 e.2) s).at? (bundledPlace e.1) =
        some (.file (Bundled.ofLines e.2).toUTF8) := by
  have hkeeps : ∀ (es : List (String × List String)) (s : Store) (l : Loc),
      (∀ e ∈ es, ¬ l <:+ bundledPlace e.1) →
      (es.foldl (fun s e => Bundled.installOne s e.1 e.2) s).at? l = s.at? l := by
    intro es
    induction es with
    | nil => exact fun _ _ _ => rfl
    | cons e es ih =>
      intro s l hl
      obtain ⟨he, hes⟩ := List.forall_mem_cons.mp hl
      rw [List.foldl_cons, ih _ l hes, at?_installOne he]
  induction es generalizing s with
  | nil => nofun
  | cons e es ih =>
    obtain ⟨hfirst, hrest⟩ := List.pairwise_cons.mp h
    obtain ⟨hne, hnes⟩ := List.forall_mem_cons.mp hne
    rw [List.foldl_cons]
    refine List.forall_mem_cons.mpr ⟨?_, ih hrest hnes⟩
    rw [hkeeps es _ _ fun f hf => hfirst _ (List.mem_map_of_mem hf)]
    exact at?_insert_self hne

/-- The names in the paths of the bundled templates. -/
def bundledNames : List (List String) := [
  ["base", "gitignore.j2"], ["base", "tsconfig.json.j2"],
  ["controllers", "healthController.j2"],
  ["db", "drizzle-client.j2"], ["db", "mongoose-client.j2"], ["db", "prisma-client.j2"],
  ["db", "prisma-schema.j2"],
  ["middleware", "errorHandler.j2"], ["middleware", "notFoundHandler.j2"],
  ["routes", "health.j2"],
  ["server", "app.j2"], ["server", "commonjs-javascript.j2"], ["server", "commonjs-typescript.j2"],
  ["server", "esm-javascript.j2"], ["server", "esm-typescript.j2"]]

theorem map_names_of_spells {paths : List String} {css : List (List Char)}
    {names : List (List String)} (hp : Spells paths css)
    (h : (css.map fun cs => (Path.named cs).map String.ofList) = names) :
    (paths.map fun path => (Path.ofString path).names) = names := by
  rw [hp.eq_map, List.map_map, ← h]
  exact List.map_congr_left fun cs _ => Path.names_ofList cs

theorem names_templateNames :
    (templateNames.map fun path => (Path.ofString path).names) = bundledNames := by
  apply map_names_of_spells
  · simp only [templateNames, Bundled.templates, List.map_cons, List.map_nil]
    repeat' first | exact .nil | apply Spells.cons rfl
  · decide +kernel

theorem mem_bundledNames (h : path ∈ templateNames) :
    (Path.ofString path).names ∈ bundledNames := by
  rw [← names_templateNames]
  exact List.mem_map_of_mem h

theorem bundled_fits (h : path ∈ templateNames) : (Bundled.root.child path).Fits := by
  have hroot : Bundled.root.Fits := ⟨by decide, by decide, by decide⟩
  have hsize : Bundled.root.text.utf8ByteSize ≤ 40 := by decide
  have hall : ∀ names ∈ bundledNames, (⟨.relative, names⟩ : Path).hasNul = false ∧
      (∀ name ∈ names, name.utf8ByteSize ≤ nameLimit) ∧ Path.span names ≤ 40 := by
    decide +kernel
  obtain ⟨hnul, hnames, hspan⟩ := hall _ (mem_bundledNames h)
  refine Path.child_fits hroot (by decide) (isTemplatePath_of_mem _ h).inner hnul hnames ?_
  have hlimit : pathLimit = 4095 := rfl
  omega

/-- No bundled template is on the way to another. -/
theorem bundled_apart : (templateNames.map bundledPlace).Pairwise fun l m => ¬ l <:+ m := by
  have happart : bundledNames.Pairwise fun l m => ¬ l <+: m := by simp [bundledNames]
  rw [← names_templateNames, List.pairwise_map] at happart
  refine List.pairwise_map.mpr (happart.imp_of_mem fun {p q} hp hq hne hsuf => hne ?_)
  rw [bundledPlace, bundledPlace, Path.child_of_isInner (isTemplatePath_of_mem _ hp).inner,
    Path.child_of_isInner (isTemplatePath_of_mem _ hq).inner] at hsuf
  exact (List.prefix_append_right_inj _).mp (List.reverse_suffix.mp hsuf)

/-- A plain disk on which the bundled templates were installed has them at hand. -/
theorem hasBundled_install (hs : (Bundled.install s).IsPlain) :
    (.new none : Library engine).HasBundled (Bundled.install s) where
  installed e he := by
    have hfits := bundled_fits (List.mem_map_of_mem he)
    have hroot : Path.ofString "/usr/share/scaffold/templates" = Bundled.root := by decide
    have hplain : Bundled.root.IsPlain := by
      rw [← hroot]
      exact Path.ofString_isPlain (by rw [hroot]; nofun) (by rw [hroot]; decide)
    have hinner : ∀ e ∈ Bundled.templates, IsInner e.1 := fun e he =>
      (isTemplatePath_of_mem e.1 (List.mem_map_of_mem he)).inner
    have hne : ∀ e ∈ Bundled.templates, bundledPlace e.1 ≠ [] := fun e he => by
      rw [bundledPlace, Path.child_of_isInner (hinner e he)]
      simp [Path.loc, Bundled.root]
    have hapart := bundled_apart
    rw [templateNames, List.map_map] at hapart
    have hat : (Bundled.install s).at? (Bundled.root.child e.1).loc =
        some (.file (Bundled.ofLines e.2).toUTF8) := at?_installed hapart hne e he
    have hplace : (Bundled.install s).place .target (Bundled.root.child e.1) = .entry _ :=
      place_of_isSome hs (Path.child_isPlain hplain (hinner e he)) hfits (by rw [hat]; rfl)
    exact readText_ok_iff.mpr
      ⟨hfits.noNul, _, _, _, hplace, hat, dif_pos (Bundled.ofLines e.2).isValidUTF8, rfl⟩
  current := .of_empty rfl

end Template

open Template

theorem isSimple_ofFields {fields : List (String × Json)} (h : fields.all isPlainField) :
    (Data.ofFields fields).isSimple := by
  induction fields with
  | nil => rfl
  | cons field fields ih =>
    obtain ⟨hfield, hrest⟩ := and_eq_true_imp h
    obtain ⟨name, value⟩ := field
    obtain ⟨hname, hvalue⟩ := and_eq_true_imp hfield
    have hsimple : (Value.ofJson value).isSimple := by
      cases value <;> first | rfl | cases hvalue
    have hcons : Data.ofFields ((name, value) :: fields) =
        (name, Value.ofJson value) :: Data.ofFields fields := rfl
    rw [hcons, Data.isSimple, List.all_cons, Bool.and_eq_true]
    exact ⟨by simpa [hsimple] using hname, ih hrest⟩

theorem lookup_ofFields (fields : List (String × Json)) (name : String) :
    (Data.ofFields fields).lookup name = (fields.lookup name).map Value.ofJson := by
  induction fields with
  | nil => rfl
  | cons field fields ih =>
    have hcons : Data.ofFields (field :: fields) =
        (field.1, Value.ofJson field.2) :: Data.ofFields fields := rfl
    rw [hcons, List.lookup_cons, List.lookup_cons, ih]
    cases name == field.1 <;> rfl

variable {b b' : Blueprint} {lib : Library engine} {s : Store}

/-- What blueprints settle is akin if they differ only in the target. -/
theorem defaults_areAkin (h : b'.choices = { b.choices with target := b'.target }) :
    b.site.defaults.AreAkin b'.site.defaults := by
  have hplain : ∀ b : Blueprint, b.context.all isPlainField := fun b => by
    simp [Blueprint.context, Blueprint.entries, isPlainField, selfName]
  refine ⟨isSimple_ofFields (hplain b), isSimple_ofFields (hplain b'), fun name hn => ?_⟩
  obtain ⟨choices, haccepted⟩ := b
  obtain ⟨choices', haccepted'⟩ := b'
  obtain ⟨target, rfl⟩ : ∃ target, choices' = { choices with target := target } := ⟨_, h⟩
  have hother : (name == "target_path") = false := by simpa [targetName] using hn
  have hcontext : (Blueprint.context ⟨choices, haccepted⟩).lookup name =
      (Blueprint.context ⟨{ choices with target := target }, haccepted'⟩).lookup name := by
    simp only [Blueprint.context, Blueprint.entries, List.map_cons, List.cons_append,
      List.lookup_cons, hother]
    rfl
  rw [Blueprint.site, Blueprint.site, lookup_ofFields, lookup_ofFields, hcontext]

theorem render_of_compile (h : lib.HasBundled s) {e : String × List String} {tree : Tree}
    {text : String} (he : e ∈ Bundled.templates)
    (hc : Tree.ofSource e.1 (sourceOf e.2) = .ok tree) (ht : tree.isTame)
    (hm : tree.meaning b.site.defaults = text) :
    (lib.render s e.1 b.site.defaults).1 = .ok text := by
  have hdata : b.site.defaults.AreAkin b.site.defaults := defaults_areAkin rfl
  rw [h.current.render_fst (isTemplatePath_of_mem _ (List.mem_map_of_mem he)), h.load he hc, ← hm]
  exact renderTree_of_tame lib s ht hdata.left

theorem lookup_defaults (b : Blueprint) (name : String) :
    b.site.defaults.lookup name = (b.context.lookup name).map Value.ofJson := by
  rw [Blueprint.site, lookup_ofFields]

theorem tasks_congr (h : b'.choices = { b.choices with target := b'.target }) :
    b'.tasks = b.tasks := by
  obtain ⟨choices, haccepted⟩ := b
  obtain ⟨choices', haccepted'⟩ := b'
  obtain ⟨target, rfl⟩ : ∃ target, choices' = { choices with target := target } := ⟨_, h⟩
  rfl

/-! ## Commands -/

variable {site site' : Site} {w w' : Workshop engine} {t : Task}

def Command.shape (c : Command) : Entry := if c.isFolder then .directory else .file .empty

theorem demand?_of_render {template path text : String} {data : Option Data}
    (h : (w.library.render w.store template (data.getD site.defaults)).1 = .ok text) :
    site.demand? w (.renderTemplate template path data) = some (path, .file text.toUTF8) :=
  demand?_of_order (by rw [Site.order?, h]; rfl)

/-- What a command of a project is to put can be had where the bundled templates are, and is the
same on all sites whose defaults are akin. -/
theorem demand?_of_mem (hw : w.library.HasBundled w.store) (hw' : w'.library.HasBundled w'.store)
    (hd : site.defaults.AreAkin site'.defaults) (ht : t ∈ b.tasks) :
    ∃ e, site.demand? w t.command = some (t.path, e) ∧
      site'.demand? w' t.command = some (t.path, e) ∧
      e.shape = t.command.shape := by
  have hall : Command.HoldsInProjects fun c => ∀ path, c.destination? = some path →
      ∃ e, site.demand? w c = some (path, e) ∧ site'.demand? w' c = some (path, e) ∧
        e.shape = c.shape :=
    { folder := by rintro path _ ⟨⟩; exact ⟨_, rfl, rfl, rfl⟩
      file := by
        rintro path text _ ⟨⟩
        exact ⟨_, demand?_of_order rfl, demand?_of_order rfl, rfl⟩
      json := by
        rintro path value _ ⟨⟩
        exact ⟨_, demand?_of_order rfl, demand?_of_order rfl, rfl⟩
      rendered := by
        rintro template htemplate path fields hfields _ ⟨⟩
        obtain ⟨text, hr, hr'⟩ :=
          render_of_bundled hw hw' htemplate (.refl (isSimple_ofFields hfields))
        refine ⟨.file text.toUTF8, ?_, ?_, rfl⟩
        · exact demand?_of_render hr
        · exact demand?_of_render hr'
      byDefault := by
        rintro template htemplate path _ ⟨⟩
        obtain ⟨text, hr, hr'⟩ := render_of_bundled hw hw' htemplate hd
        refine ⟨.file text.toUTF8, ?_, ?_, rfl⟩
        · exact demand?_of_render hr
        · exact demand?_of_render hr' }
  exact forall_tasks hall b t ht t.path t.aimed

theorem isSteady_of_tame {template : String} {tree : Tree} {data : Option Data}
    (hs : s.IsPlain) (hp : IsTemplatePath template) (hl : lib.load s template = .ok tree)
    (ht : tree.isTame) (hd : (data.getD site.defaults).isSimple) (path : String) :
    site.IsSteady lib s (.renderTemplate template path data) := by
  intro u u' tree' state state' hu _ hl'
  have hsame := Library.load_of_spares hu.spares hu.keeps hs.linkless hp hl
  rw [hl'] at hsame
  cases hsame
  have htext := fun m => congrArg Prod.fst (tree.render_of_tame ht hd m)
  exact (htext state).trans (htext state').symm

theorem isSteady_of_mem (h : lib.HasBundled s) (hs : s.IsPlain) (hd : site.defaults.isSimple)
    (ht : t ∈ b.tasks) : site.IsSteady lib s t.command := by
  have hall : ∀ template ∈ templateNames, ∀ (path : String) (data : Option Data),
      (data.getD site.defaults).isSimple →
      site.IsSteady lib s (.renderTemplate template path data) := by
    intro template htemplate path data hsimple
    obtain ⟨e, he, rfl⟩ := List.mem_map.mp htemplate
    obtain ⟨tree, hcompile, hportable⟩ := bundled_isPortable e he
    exact isSteady_of_tame hs (isTemplatePath_of_mem e.1 htemplate) (h.load he hcompile)
      (and_eq_true_imp hportable).1 hsimple path
  have hsteady : Command.HoldsInProjects (site.IsSteady lib s) :=
    { folder := fun _ => trivial
      file := fun _ _ => trivial
      json := fun _ _ => trivial
      rendered := fun template htemplate path fields hfields =>
        hall template htemplate path (some (.ofFields fields)) (isSimple_ofFields hfields)
      byDefault := fun template htemplate path => hall template htemplate path none hd }
  exact forall_tasks hsteady b t ht

end Scaffold
