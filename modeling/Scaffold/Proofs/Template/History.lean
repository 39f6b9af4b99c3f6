import Mathlib.Data.List.Induction
import Scaffold.Run
import Scaffold.Template.Render

/-!
# What a library remembers

A library answers from its whole history: what was rendered, when everything was forgotten, and what
the disk was at each moment. `IsFirstLoad` reads off such a history which source a path stands for,
the one that the first load since the last forgetting found, and says nothing of what is kept.
`recalls_after` ties the two together: after every history the library keeps exactly the paths that
have a first load, and renders each of them as that source. What a source renders as is for the
engine to say: the renderings of one library share a state, and only from a template that does not
use it (`IsSteady`) is the same text due every time.
-/

namespace Scaffold.Template

open Run (World)

/-- What can happen to a library and to the disk that it reads from. -/
inductive Event where
  | render (path : String) (data : Data)
  | holds (path : String)
  | readStatic (path : String)
  | forget
  /-- Anything may become of the disk. -/
  | edit (disk : Store)

namespace Event

variable {E : Engine}

def step (w : World E) : Event → World E
  | render path data => { w with library := (w.library.render w.store path data).2 }
  | holds _ | readStatic _ => w
  | forget => { w with library := w.library.forget }
  | edit disk => { w with store := disk }

def after (w : World E) (h : List Event) : World E := h.foldl step w

def diskAfter (disk : Store) : List Event → Store
  | [] => disk
  | edit disk :: h => diskAfter disk h
  | _ :: h => diskAfter disk h

theorem after_concat (w : World E) (h : List Event) (e : Event) :
    after w (h ++ [e]) = step (after w h) e := by
  simp [after]

theorem store_after (w : World E) (h : List Event) : (after w h).store = diskAfter w.store h := by
  induction h generalizing w with
  | nil => rfl
  | cons e h ih =>
    change (after (step w e) h).store = _
    rw [ih]
    cases e <;> rfl

end Event

open Event

/-- A tree that renders the same whatever was rendered before, and whatever other sources there
are. -/
def Engine.IsSteady (E : Engine) (tree : E.Tree) : Prop :=
  ∀ data sources sources' state state',
    (E.render tree data sources state).1 = (E.render tree data sources' state').1

namespace Library

variable {E : Engine} {lib : Library E} {s : Store} {path : String}

def sourceText (lib : Library E) (s : Store) (path : String) : Except Fault (List Char) := do
  let missing := Fault.templateMissing path (lib.locate path).text
  if !(← lib.holds s path) then .error missing
  else match lib.source? s path with
    | none => .error missing
    | some file => s.readText file

theorem load_eq (lib : Library E) (s : Store) (path : String) : lib.load s path =
    lib.sourceText s path >>= fun source =>
      (E.compile path source).mapError (.unusableTemplate path) := by
  unfold load sourceText sources
  cases lib.holds s path with
  | error f => rfl
  | ok there =>
    cases there with
    | false => rfl
    | true =>
      cases lib.source? s path with
      | none => rfl
      | some file => cases hread : s.readText file <;> simp [hread, bind, Except.bind, Except.map]

theorem load_of_root {lib' : Library E} (h : lib.root = lib'.root) (s : Store) (path : String) :
    lib.load s path = lib'.load s path := by
  simp only [load, sources, holds, locate, source?, h]

theorem sources_of_root {lib' : Library E} (h : lib.root = lib'.root) (s : Store) :
    lib.sources s = lib'.sources s := by
  funext path
  simp only [sources, source?, h]

theorem load_ok_iff {tree : E.Tree} : lib.load s path = .ok tree ↔
    ∃ source, lib.sourceText s path = .ok source ∧ E.compile path source = .ok tree := by
  rw [load_eq]
  cases lib.sourceText s path with
  | error f => simp [bind, Except.bind]
  | ok source => cases hc : E.compile path source <;> simp [bind, Except.bind, hc]

theorem renderTree_fst (lib : Library E) (s : Store) (tree : E.Tree) (data : Data) :
    (lib.renderTree s tree data).1 =
      (E.render tree data (lib.sources s) lib.state).1.mapError .rendering := rfl

@[simp] theorem renderTree_root (lib : Library E) (s : Store) (tree : E.Tree) (data : Data) :
    (lib.renderTree s tree data).2.root = lib.root := rfl

@[simp] theorem renderTree_kept (lib : Library E) (s : Store) (tree : E.Tree) (data : Data) :
    (lib.renderTree s tree data).2.kept = lib.kept := rfl

theorem render_of_kept {tree : E.Tree} (h : lib.kept.lookup path = some tree) (data : Data) :
    lib.render s path data = lib.renderTree s tree data := by
  simp only [render, get, h]

def keeping (lib : Library E) (path : String) (tree : E.Tree) : Library E :=
  { lib with kept := (path, tree) :: lib.kept }

theorem render_of_load {tree : E.Tree} (h : lib.kept.lookup path = none)
    (hl : lib.load s path = .ok tree) (data : Data) :
    lib.render s path data = (lib.keeping path tree).renderTree s tree data := by
  simp only [render, get, h, hl, keeping]

theorem render_of_unloadable {f : Fault} (h : lib.kept.lookup path = none)
    (hl : lib.load s path = .error f) (data : Data) :
    lib.render s path data = (.error f, lib) := by
  simp only [render, get, h, hl]

/-- A rendering finds the template kept, or loads it, or cannot load it. -/
theorem render_cases (lib : Library E) (s : Store) (path : String) (data : Data) :
    (∃ tree, lib.kept.lookup path = some tree ∧
        lib.render s path data = lib.renderTree s tree data) ∨
      lib.kept.lookup path = none ∧
        ((∃ tree, lib.load s path = .ok tree ∧
            lib.render s path data = (lib.keeping path tree).renderTree s tree data) ∨
          ∃ f, lib.load s path = .error f ∧ lib.render s path data = (.error f, lib)) := by
  cases hk : lib.kept.lookup path with
  | some tree => exact .inl ⟨tree, rfl, render_of_kept hk data⟩
  | none =>
    cases hl : lib.load s path with
    | ok tree => exact .inr ⟨rfl, .inl ⟨tree, rfl, render_of_load hk hl data⟩⟩
    | error f => exact .inr ⟨rfl, .inr ⟨f, rfl, render_of_unloadable hk hl data⟩⟩

theorem renderTree_error {tree : E.Tree} {data : Data} {f : Fault}
    (h : (lib.renderTree s tree data).1 = .error f) : ∃ why, f = .rendering why := by
  unfold renderTree at h
  cases hr : (E.render tree data (lib.sources s) lib.state).1 with
  | ok content => simp [hr] at h
  | error why =>
    simp only [hr, mapError_error, Except.error.injEq] at h
    exact ⟨why, h.symm⟩

/-- A rendering that ends in the failure to load a template changes nothing. -/
theorem render_unchanged {data : Data} {f : Fault} (h : (lib.render s path data).1 = .error f)
    (hf : ∀ why, f ≠ .rendering why) : (lib.render s path data).2 = lib := by
  rcases lib.render_cases s path data with ⟨tree, _, hr⟩ | ⟨_, ⟨tree, _, hr⟩ | ⟨g, _, hr⟩⟩
  · rw [hr] at h
    exact absurd (renderTree_error h) fun ⟨why, he⟩ => hf why he
  · rw [hr] at h
    exact absurd (renderTree_error h) fun ⟨why, he⟩ => hf why he
  · rw [hr]

/-! ## What is kept -/

theorem lookup_isSome_iff : (lib.kept.lookup path).isSome ↔ path ∈ lib.kept.map (·.1) := by
  rw [List.lookup_isSome_iff, List.mem_map]
  simp only [beq_iff_eq]
  exact exists_congr fun p => and_congr_right fun _ => eq_comm

theorem mem_keptPaths : path ∈ lib.keptPaths ↔ (lib.kept.lookup path).isSome := by
  rw [lookup_isSome_iff, keptPaths, List.mem_mergeSort]

theorem keptPaths_pairwise (h : (lib.kept.map (·.1)).Nodup) :
    lib.keptPaths.Pairwise (· < ·) := by
  have hsorted : lib.keptPaths.Pairwise (· ≤ ·) := by
    have := @List.pairwise_mergeSort String (fun a b => decide (a ≤ b))
      (fun a b c => by simpa using String.le_trans) (fun a b => by simpa using String.le_total a b)
      (lib.kept.map (·.1))
    simpa [keptPaths] using this
  have hnodup : lib.keptPaths.Nodup := (List.mergeSort_perm _ _).nodup_iff.mpr h
  exact hsorted.imp₂
    (fun a b hle hne => String.not_le.mp fun hba => hne (String.le_antisymm hle hba))
    hnodup

end Library

/-! ## First loads -/

section History

variable (E : Engine) {root : Path} {s₀ : Store} {h : List Event} {path : String}
  {source : List Char}

/-- A template path stands for a source on this disk, and the source compiles. -/
def Loads (root : Path) (disk : Store) (path : String) (source : List Char) : Prop :=
  (.new (some root) : Library E).sourceText disk path = .ok source ∧
    ∃ tree, E.compile path source = .ok tree

/-- No rendering since everything was forgotten could load the path. -/
def Unloaded (root : Path) (s₀ : Store) (h : List Event) (path : String) : Prop :=
  ∀ before data after, h = before ++ .render path data :: after → .forget ∉ after →
    ∀ source, ¬ Loads E root (diskAfter s₀ before) path source

/-- The source that the first rendering since everything was forgotten that could load the path
loaded it from. -/
def IsFirstLoad (root : Path) (s₀ : Store) (h : List Event) (path : String)
    (source : List Char) : Prop :=
  ∃ before data after, h = before ++ .render path data :: after ∧ .forget ∉ after ∧
    Loads E root (diskAfter s₀ before) path source ∧ Unloaded E root s₀ before path

variable {E}

theorem render_ne_forget {data : Data} : Event.render path data ≠ .forget := nofun

theorem unloaded_nil : Unloaded E root s₀ [] path := by
  intro before data after h
  simp at h

/-- The parts of a history around a rendering, when one more event is added at its end. -/
theorem split_concat {e : Event} {before after : List Event} {data : Data} :
    h ++ [e] = before ++ .render path data :: after ↔
      (after = [] ∧ h = before ∧ e = .render path data) ∨
        ∃ rest, after = rest ++ [e] ∧ h = before ++ .render path data :: rest := by
  constructor
  · intro hsplit
    rcases List.eq_nil_or_concat after with rfl | ⟨rest, last, rfl⟩
    · obtain ⟨hh, he⟩ := List.append_inj' hsplit rfl
      exact .inl ⟨rfl, hh, List.cons.inj he |>.1⟩
    · have hassoc : before ++ .render path data :: rest.concat last =
          (before ++ .render path data :: rest) ++ [last] := by simp
      obtain ⟨hh, he⟩ := List.append_inj' (hsplit.trans hassoc) rfl
      exact .inr ⟨rest, by simp [(List.cons.inj he).1], hh⟩
  · rintro (⟨rfl, rfl, rfl⟩ | ⟨rest, rfl, rfl⟩) <;> simp

theorem unloaded_forget : Unloaded E root s₀ (h ++ [.forget]) path := by
  intro before data after hsplit hforget
  rcases split_concat.mp hsplit with ⟨_, _, he⟩ | ⟨rest, rfl, _⟩
  · cases he
  · simp at hforget

theorem not_isFirstLoad_forget : ¬ IsFirstLoad E root s₀ (h ++ [.forget]) path source := by
  rintro ⟨before, data, after, hsplit, hforget, hl, _⟩
  exact unloaded_forget before data after hsplit hforget source hl

/-- An event that does not forget adds to what is loaded only if it renders the path itself. -/
theorem unloaded_concat {e : Event} (he : e ≠ .forget) :
    Unloaded E root s₀ (h ++ [e]) path ↔ Unloaded E root s₀ h path ∧
      ((∃ data, e = .render path data) →
        ∀ source, ¬ Loads E root (diskAfter s₀ h) path source) := by
  constructor
  · intro hu
    refine ⟨fun before data rest hsplit hforget => ?_, ?_⟩
    · exact hu before data (rest ++ [e]) (split_concat.mpr (.inr ⟨rest, rfl, hsplit⟩))
        (by simpa [he.symm] using hforget)
    · rintro ⟨data, rfl⟩
      exact hu h data [] (split_concat.mpr (.inl ⟨rfl, rfl, rfl⟩)) (by simp)
  · rintro ⟨hu, hlast⟩ before data after hsplit hforget
    rcases split_concat.mp hsplit with ⟨_, rfl, he'⟩ | ⟨rest, rfl, hrest⟩
    · exact hlast ⟨data, he'⟩
    · exact hu before data rest hrest fun hm => hforget (by simp [hm])

theorem isFirstLoad_concat {e : Event} (he : e ≠ .forget) :
    IsFirstLoad E root s₀ (h ++ [e]) path source ↔ IsFirstLoad E root s₀ h path source ∨
      (∃ data, e = .render path data) ∧ Unloaded E root s₀ h path ∧
        Loads E root (diskAfter s₀ h) path source := by
  constructor
  · rintro ⟨before, data, after, hsplit, hforget, hl, hu⟩
    rcases split_concat.mp hsplit with ⟨_, rfl, he'⟩ | ⟨rest, rfl, hrest⟩
    · exact .inr ⟨⟨data, he'⟩, hu, hl⟩
    · exact .inl ⟨before, data, rest, hrest, fun hm => hforget (by simp [hm]), hl, hu⟩
  · rintro (⟨before, data, rest, hrest, hforget, hl, hu⟩ | ⟨⟨data, rfl⟩, hu, hl⟩)
    · exact ⟨before, data, rest ++ [e], split_concat.mpr (.inr ⟨rest, rfl, hrest⟩),
        by simpa [he.symm] using hforget, hl, hu⟩
    · exact ⟨h, data, [], split_concat.mpr (.inl ⟨rfl, rfl, rfl⟩), by simp, hl, hu⟩

theorem IsFirstLoad.not_unloaded (hf : IsFirstLoad E root s₀ h path source) :
    ¬ Unloaded E root s₀ h path := by
  obtain ⟨before, data, after, hsplit, hforget, hl, _⟩ := hf
  exact fun hu => hu before data after hsplit hforget source hl

theorem IsFirstLoad.unique {source' : List Char} (hf : IsFirstLoad E root s₀ h path source)
    (hf' : IsFirstLoad E root s₀ h path source') : source = source' := by
  induction h using List.reverseRecOn with
  | nil =>
    obtain ⟨before, data, after, hsplit, _⟩ := hf
    simp at hsplit
  | append_singleton h e ih =>
    by_cases he : e = .forget
    · subst he
      exact absurd hf not_isFirstLoad_forget
    · rcases (isFirstLoad_concat he).mp hf with hold | ⟨_, hu, hl⟩ <;>
        rcases (isFirstLoad_concat he).mp hf' with hold' | ⟨_, hu', hl'⟩
      · exact ih hold hold'
      · exact absurd hu' hold.not_unloaded
      · exact absurd hu hold'.not_unloaded
      · exact Except.ok.inj (hl.1.symm.trans hl'.1)

/-- Some first load gave the library each tree that it keeps, and no other path was loaded. -/
structure Remembers (root : Path) (s₀ : Store) (h : List Event) (lib : Library E) : Prop where
  root_eq : lib.root = root
  nodup : (lib.kept.map (·.1)).Nodup
  kept : ∀ {path tree}, lib.kept.lookup path = some tree →
    ∃ source, IsFirstLoad E root s₀ h path source ∧ E.compile path source = .ok tree
  unkept : ∀ {path}, lib.kept.lookup path = none → Unloaded E root s₀ h path

namespace Remembers

variable {lib : Library E}

theorem start : Remembers root s₀ [] (.new (some root) : Library E) where
  root_eq := rfl
  nodup := .nil
  kept := nofun
  unkept _ := unloaded_nil

theorem forget (hr : Remembers root s₀ h lib) : Remembers root s₀ (h ++ [.forget]) lib.forget where
  root_eq := hr.root_eq
  nodup := .nil
  kept := nofun
  unkept _ := unloaded_forget

/-- An event that neither forgets nor loads anything leaves the memory as it is. -/
theorem quiet {e : Event} (hr : Remembers root s₀ h lib) (he : e ≠ .forget)
    (hq : ∀ path data, e = .render path data → lib.kept.lookup path = none →
      ∀ source, ¬ Loads E root (diskAfter s₀ h) path source) :
    Remembers root s₀ (h ++ [e]) lib where
  root_eq := hr.root_eq
  nodup := hr.nodup
  kept hk := by
    obtain ⟨source, hf, hc⟩ := hr.kept hk
    exact ⟨source, (isFirstLoad_concat he).mpr (.inl hf), hc⟩
  unkept hk := (unloaded_concat he).mpr ⟨hr.unkept hk, fun ⟨data, hd⟩ => hq _ data hd hk⟩

theorem load_ok_iff (hr : Remembers root s₀ h lib) {disk : Store} {tree : E.Tree} :
    lib.load disk path = .ok tree ↔
      ∃ source, Loads E root disk path source ∧ E.compile path source = .ok tree := by
  have hroot : lib.root = (.new (some root) : Library E).root := hr.root_eq
  rw [Library.load_of_root hroot, Library.load_ok_iff]
  exact exists_congr fun source =>
    ⟨fun ⟨hs, hc⟩ => ⟨⟨hs, tree, hc⟩, hc⟩, fun ⟨⟨hs, _⟩, hc⟩ => ⟨hs, hc⟩⟩

theorem load {tree : E.Tree} {data : Data} (hr : Remembers root s₀ h lib)
    (hk : lib.kept.lookup path = none) (hl : lib.load (diskAfter s₀ h) path = .ok tree) :
    Remembers root s₀ (h ++ [.render path data]) (lib.keeping path tree) where
  root_eq := hr.root_eq
  nodup := by
    have hn : path ∉ lib.kept.map (·.1) := by
      rw [← Library.lookup_isSome_iff, hk]
      simp
    exact List.nodup_cons.mpr ⟨hn, hr.nodup⟩
  kept {p t} hp := by
    rw [Library.keeping, List.lookup_cons] at hp
    by_cases he : p = path
    · subst he
      simp only [beq_self_eq_true, Option.some.injEq] at hp
      subst hp
      obtain ⟨source, hload, hc⟩ := hr.load_ok_iff.mp hl
      exact ⟨source, (isFirstLoad_concat render_ne_forget).mpr (.inr
        ⟨⟨data, rfl⟩, hr.unkept hk, hload⟩), hc⟩
    · simp only [show (p == path) = false by simpa using he] at hp
      obtain ⟨source, hf, hc⟩ := hr.kept hp
      exact ⟨source, (isFirstLoad_concat render_ne_forget).mpr (.inl hf), hc⟩
  unkept {p} hp := by
    rw [Library.keeping, List.lookup_cons] at hp
    have he : p ≠ path := by rintro rfl; simp at hp
    simp only [show (p == path) = false by simpa using he] at hp
    exact (unloaded_concat render_ne_forget).mpr
      ⟨hr.unkept hp, fun ⟨_, hd⟩ => absurd hd (by simp [he.symm])⟩

theorem renderTree (hr : Remembers root s₀ h lib) (disk : Store) (tree : E.Tree) (data : Data) :
    Remembers root s₀ h (lib.renderTree disk tree data).2 :=
  ⟨hr.root_eq, hr.nodup, hr.kept, hr.unkept⟩

theorem render (hr : Remembers root s₀ h lib) (path : String) (data : Data) :
    Remembers root s₀ (h ++ [.render path data]) (lib.render (diskAfter s₀ h) path data).2 := by
  rcases lib.render_cases (diskAfter s₀ h) path data with
    ⟨tree, hk, hres⟩ | ⟨hk, ⟨tree, hl, hres⟩ | ⟨f, hl, hres⟩⟩
  · rw [hres]
    refine (hr.renderTree _ tree data).quiet render_ne_forget fun p _ hp hnone => ?_
    cases hp
    exact absurd (hk.symm.trans hnone) nofun
  · rw [hres]
    exact (hr.load hk hl).renderTree _ tree data
  · rw [hres]
    refine hr.quiet render_ne_forget fun p _ hp _ source hload => ?_
    cases hp
    obtain ⟨tree, hc⟩ := hload.2
    exact absurd (hr.load_ok_iff.mpr ⟨source, hload, hc⟩) (by simp [hl])

/-- A rendering goes by the first load of its path, or there is none and it fails to load. -/
theorem render_spec (hr : Remembers root s₀ h lib) (path : String) (data : Data) :
    (∃ source tree, IsFirstLoad E root s₀ (h ++ [.render path data]) path source ∧
        E.compile path source = .ok tree ∧
        (lib.render (diskAfter s₀ h) path data).1 =
          (lib.renderTree (diskAfter s₀ h) tree data).1 ∧
        (lib.render (diskAfter s₀ h) path data).2.state =
          (lib.renderTree (diskAfter s₀ h) tree data).2.state) ∨
      Unloaded E root s₀ (h ++ [.render path data]) path ∧
        ∃ f, lib.load (diskAfter s₀ h) path = .error f ∧
          lib.render (diskAfter s₀ h) path data = (.error f, lib) := by
  rcases lib.render_cases (diskAfter s₀ h) path data with
    ⟨tree, hk, hres⟩ | ⟨hk, ⟨tree, hl, hres⟩ | ⟨f, hl, hres⟩⟩
  · obtain ⟨source, hf, hc⟩ := hr.kept hk
    exact .inl ⟨source, tree, (isFirstLoad_concat render_ne_forget).mpr (.inl hf), hc, by rw [hres],
      by rw [hres]⟩
  · obtain ⟨source, hload, hc⟩ := hr.load_ok_iff.mp hl
    exact .inl ⟨source, tree, (isFirstLoad_concat render_ne_forget).mpr (.inr
      ⟨⟨data, rfl⟩, hr.unkept hk, hload⟩), hc, by rw [hres]; rfl, by rw [hres]; rfl⟩
  · refine .inr ⟨(unloaded_concat render_ne_forget).mpr ⟨hr.unkept hk, ?_⟩, f, hl, hres⟩
    intro _ source hload
    obtain ⟨tree, hc⟩ := hload.2
    exact absurd (hr.load_ok_iff.mpr ⟨source, hload, hc⟩) (by simp [hl])

/-- A path with a first load renders as the tree of that source. -/
theorem rendered {data : Data} (hr : Remembers root s₀ h lib)
    (hf : IsFirstLoad E root s₀ (h ++ [.render path data]) path source) :
    ∃ tree, E.compile path source = .ok tree ∧
      (lib.render (diskAfter s₀ h) path data).1 = (lib.renderTree (diskAfter s₀ h) tree data).1 ∧
      (lib.render (diskAfter s₀ h) path data).2.state =
        (lib.renderTree (diskAfter s₀ h) tree data).2.state := by
  rcases hr.render_spec path data with ⟨source', tree, hf', hc, hres⟩ | ⟨hu, _⟩
  · exact ⟨tree, hf.unique hf' ▸ hc, hres⟩
  · exact absurd hu hf.not_unloaded

theorem mem_keptPaths_iff (hr : Remembers root s₀ h lib) :
    path ∈ lib.keptPaths ↔ ∃ source, IsFirstLoad E root s₀ h path source := by
  rw [Library.mem_keptPaths]
  cases hk : lib.kept.lookup path with
  | some tree =>
    obtain ⟨source, hf, _⟩ := hr.kept hk
    exact iff_of_true rfl ⟨source, hf⟩
  | none => exact iff_of_false (by simp) fun ⟨_, hf⟩ => hf.not_unloaded (hr.unkept hk)

end Remembers

/-- Whatever happens, a library keeps what was loaded first since it last forgot everything. -/
theorem remembers_after (root : Path) (s₀ : Store) (h : List Event) :
    Remembers root s₀ h (after (⟨s₀, .new (some root)⟩ : World E) h).library := by
  induction h using List.reverseRecOn with
  | nil => exact .start
  | append_singleton h e ih =>
    rw [after_concat]
    cases e with
    | render path data =>
      have hstep := ih.render path data
      rw [← store_after (⟨s₀, .new (some root)⟩ : World E) h] at hstep
      exact hstep
    | holds path | readStatic path | edit disk => exact ih.quiet nofun nofun
    | forget => exact ih.forget

/-- What holds of a library and its disk after a history. -/
structure Recalls (root : Path) (s₀ : Store) (h : List Event) (w : World E) : Prop where
  /-- A path renders as the source of its first load, this rendering included, from the state that
  the renderings before have left, and leaves the state that this rendering ends in. -/
  rendered : ∀ path data source, IsFirstLoad E root s₀ (h ++ [.render path data]) path source →
    ∃ tree, E.compile path source = .ok tree ∧
      (w.library.render w.store path data).1 =
        (E.render tree data (w.library.sources w.store) w.library.state).1.mapError .rendering ∧
      (w.library.render w.store path data).2.state =
        (E.render tree data (w.library.sources w.store) w.library.state).2
  /-- A steady tree renders as it would in a fresh library, with any sources. -/
  steady : ∀ path data source tree,
    IsFirstLoad E root s₀ (h ++ [.render path data]) path source →
    E.compile path source = .ok tree → E.IsSteady tree → ∀ sources,
    (w.library.render w.store path data).1 =
      (E.render tree data sources E.fresh).1.mapError .rendering
  /-- A path without a first load fails as loading it now fails, and nothing changes. -/
  unrendered : ∀ path data,
    (∀ source, ¬ IsFirstLoad E root s₀ (h ++ [.render path data]) path source) →
    ∃ f, w.library.load w.store path = .error f ∧
      w.library.render w.store path data = (.error f, w.library)
  /-- The paths of the kept templates are listed in order, each once. -/
  ascending : w.library.keptPaths.Pairwise (· < ·)
  /-- They are the paths that have a first load. -/
  listed : ∀ path, path ∈ w.library.keptPaths ↔ ∃ source, IsFirstLoad E root s₀ h path source
  /-- A rendering that ends with a missing or an unusable template changes nothing. -/
  unchanged : ∀ path data f, (w.library.render w.store path data).1 = .error f →
    (∀ why, f ≠ .rendering why) → (w.library.render w.store path data).2 = w.library
  /-- A path that has a first load is listed after its rendering, even if that failed. -/
  listed_after : ∀ path data source,
    IsFirstLoad E root s₀ (h ++ [.render path data]) path source →
    path ∈ (w.library.render w.store path data).2.keptPaths
  /-- Nothing but rendering and forgetting changes the library, and forgetting does not change the
  state. -/
  untouched : ∀ e, (∀ path data, e ≠ .render path data) →
    (e ≠ .forget → (step w e).library = w.library) ∧
      (step w e).library.state = w.library.state

/-- **A library goes by first loads.** After every history of renderings, questions, forgetting and
changes to the disk a template renders as the source of the first load of its path since everything
was last forgotten, and exactly the paths that have such a load are kept. What that source renders
as depends on the renderings before only through the state that the engine lets them share. -/
theorem recalls_after (root : Path) (s₀ : Store) (h : List Event) :
    Recalls root s₀ h (after (⟨s₀, .new (some root)⟩ : World E) h) := by
  have hr : Remembers root s₀ h (after (⟨s₀, .new (some root)⟩ : World E) h).library :=
    remembers_after root s₀ h
  have hstore := store_after (⟨s₀, .new (some root)⟩ : World E) h
  generalize after (⟨s₀, .new (some root)⟩ : World E) h = w at hr hstore
  constructor
  case rendered =>
    intro path data source hf
    rw [hstore]
    exact hr.rendered hf
  case steady =>
    intro path data source tree hf hc hsteady sources
    rw [hstore]
    obtain ⟨tree', hc', hres, -⟩ := hr.rendered hf
    obtain rfl : tree = tree' := Except.ok.inj (hc.symm.trans hc')
    rw [hres, Library.renderTree, hsteady]
  case unrendered =>
    intro path data hnone
    rw [hstore]
    rcases hr.render_spec path data with ⟨source, _, hf, _⟩ | ⟨_, hres⟩
    · exact absurd hf (hnone source)
    · exact hres
  case ascending => exact Library.keptPaths_pairwise hr.nodup
  case listed => exact fun path => hr.mem_keptPaths_iff
  case unchanged => exact fun path data f hres hf => Library.render_unchanged hres hf
  case listed_after =>
    intro path data source hf
    rw [hstore]
    exact (hr.render path data).mem_keptPaths_iff.mpr ⟨source, hf⟩
  case untouched =>
    intro e hrender
    cases e with
    | render path data => exact absurd rfl (hrender path data)
    | forget => exact ⟨fun hforget => absurd rfl hforget, rfl⟩
    | holds path | readStatic path | edit disk => exact ⟨fun _ => rfl, rfl⟩

end History

def oneTemplate (text : String) : Store :=
  (Store.empty.insert ["t"] .directory).insert ["a.j2", "t"] (.file text.toUTF8)

/-- The same file in another spelling is another path, with a first load of its own. -/
example :
    let h := [.edit (oneTemplate "old"), .render "a.j2" [], .edit (oneTemplate "new")]
    let w : World engine := after ⟨.empty, .new (some (Path.ofString "/t"))⟩ h
    (w.library.render w.store "a.j2" []).1 = .ok (.ofString "old") ∧
      (w.library.render w.store "./a.j2" []).1 = .ok (.ofString "new") ∧
      (w.library.render w.store "b.j2" []).2.keptPaths = ["a.j2"] := by
  decide +kernel

/-- A template that takes a helper away, and tells whether it was there. -/
def takingTemplate : String :=
  "\x7b% if helpers.pop('or', none) %\x7dfirst\x7b% else %\x7dsecond\x7b% endif %\x7d"

/-- It is not steady: the file stays as it is and nothing is forgotten, but the helper is gone. -/
example :
    let lib : Library engine := .new (some (Path.ofString "/t"))
    let (first, lib) := lib.render (oneTemplate takingTemplate) "a.j2" []
    let (second, _) := lib.render (oneTemplate takingTemplate) "a.j2" []
    first = .ok (.ofString "first") ∧ second = .ok (.ofString "second") := by
  decide +kernel

end Scaffold.Template
