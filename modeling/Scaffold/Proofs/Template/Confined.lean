import Scaffold.Proofs.Template.Source

/-!
# Templates stay inside their root

Two readings of a template path meet: the one that asks whether its file is there takes a first
slash for the root of the disk and follows `..`, and the one that the source is read from does
neither. The second decides: a path with a segment `..` is never loaded (`load_of_outward`), and any
other one only from where its steps lead to below the root of the library. `confined_after` says so
for libraries of every history.
-/

namespace Scaffold

namespace Template

open Store
open Run (World)
open Event

namespace Library

variable {E : Engine} {lib : Library E} {s : Store} {path : String} {tree : E.Tree}

theorem not_mem_keptPaths : path ∉ lib.keptPaths ↔ lib.kept.lookup path = none := by
  rw [mem_keptPaths, Bool.not_eq_true, Option.isSome_eq_false_iff, Option.isNone_iff_eq_none]

theorem load_of_render {data : Data} (hk : lib.kept.lookup path = none)
    (h : (lib.render s path data).2.kept.lookup path = some tree) :
    lib.load s path = .ok tree ∧ (lib.render s path data).1 = (lib.renderTree s tree data).1 := by
  rcases lib.render_cases s path data with ⟨old, hold, -⟩ | ⟨-, ⟨new, hl, hr⟩ | ⟨f, -, hr⟩⟩
  · rw [hk] at hold; cases hold
  · rw [hr] at h ⊢
    obtain rfl : new = tree := by simpa [keeping] using h
    exact ⟨hl, rfl⟩
  · rw [hr, hk] at h; cases h

/-- A path that goes outwards is not loaded, whatever it leads to. -/
theorem load_of_outward (lib : Library E) (s : Store) (h : ".." ∈ Path.segments path) :
    ∃ f, (lib.holds s path = .error f ∨ f = .templateMissing path (lib.locate path).text) ∧
      lib.load s path = .error f := by
  have hnone : lib.source? s path = none := by
    cases hs : lib.source? s path with
    | none => rfl
    | some file => exact absurd h (source?_eq_some_iff.mp hs).1
  unfold load sources
  cases hh : lib.holds s path with
  | error f => exact ⟨f, .inl rfl, rfl⟩
  | ok there =>
    refine ⟨_, .inr rfl, ?_⟩
    rw [hnone]
    cases there <;> rfl

end Library

/-- On a disk, a template path stands for the text of the regular file that its steps lead to from
the directory that the root leads to. -/
def IsBelow (root : Path) (disk : Store) (path : String) (source : List Char) : Prop :=
  ∃ dir content text, disk.place .target root = .entry dir ∧
    disk.at? ((Path.steps path).reverse ++ dir) = some (.file content) ∧
    String.fromUTF8? content = some text ∧ Text.unifyLineEnds text.toList = source

/-- A library whose templates all lie below its root. -/
structure Confined {E : Engine} (root : Path) (w : World E) : Prop where
  /-- Without links, what is newly loaded and rendered lies below the root, and its path does not go
  outwards. -/
  inside : (∀ loc target, w.store.at? loc ≠ some (.link target)) → ∀ path data tree,
    path ∉ w.library.keptPaths →
    (w.library.render w.store path data).2.kept.lookup path = some tree →
    ".." ∉ Path.segments path ∧
      (w.library.render w.store path data).1 = (w.library.renderTree w.store tree data).1 ∧
      ∃ source, IsBelow root w.store path source ∧ E.compile path source = .ok tree
  /-- So does any other source that is read while a tree is rendered. -/
  others : (∀ loc target, w.store.at? loc ≠ some (.link target)) → ∀ path source,
    w.library.sources w.store path = .ok (some source) →
    ".." ∉ Path.segments path ∧ IsBelow root w.store path source
  /-- A path that goes outwards is not kept, and rendering it fails and changes nothing, whatever it
  leads to. -/
  outward : ∀ path data, ".." ∈ Path.segments path → path ∉ w.library.keptPaths ∧
    ∃ f, (w.store.isFile? (root.child path) = .error f ∨
        f = .templateMissing path (root.child path).text) ∧
      w.library.render w.store path data = (.error f, w.library)

variable {root : Path} {disk : Store} {path : String} {source : List Char}

/-- Without links, the text at the steps of a path below the root is that of the file there. -/
theorem isBelow_of_readText (hl : ∀ loc target, disk.at? loc ≠ some (.link target))
    (hin : ".." ∉ Path.segments path)
    (h : disk.readText ⟨root.anchor, root.names ++ Path.steps path⟩ = .ok source) :
    IsBelow root disk path source := by
  obtain ⟨-, loc, content, text, hpl, hat, hutf, htext⟩ := readText_ok_iff.mp h
  obtain ⟨dir, hdir, rfl⟩ := place_append hl (fun _ => Path.isStep_of_mem_steps hin) hpl
  exact ⟨dir, content, text, hdir, hat, hutf, htext⟩

theorem Remembers.inward {E : Engine} {s₀ : Store} {h : List Event} {lib : Library E}
    (hr : Remembers root s₀ h lib) (hm : path ∈ lib.keptPaths) : ".." ∉ Path.segments path := by
  obtain ⟨source, before, _, _, -, -, hload, -⟩ := hr.mem_keptPaths_iff.mp hm
  exact (Library.sourceText_ok_iff.mp hload.1).2.1

/-- **Templates stay inside.** After every history of renderings, questions, forgetting and changes
to the disk, whatever the root: what a library loads is, on a disk without links, the regular file
that the steps of the path lead to below the root, and a path with a segment `..` is never kept and
never rendered, on any disk and whatever file it would name. -/
theorem confined_after {E : Engine} (root : Path) (s₀ : Store) (h : List Event) :
    Confined root (after (⟨s₀, .new (some root)⟩ : World E) h) := by
  have hr : Remembers root s₀ h (after (⟨s₀, .new (some root)⟩ : World E) h).library :=
    remembers_after root s₀ h
  generalize after (⟨s₀, .new (some root)⟩ : World E) h = w at hr
  constructor
  case inside =>
    intro hl path data tree hk htree
    obtain ⟨hload, hres⟩ := Library.load_of_render (Library.not_mem_keptPaths.mp hk) htree
    obtain ⟨source, hsource, hcompile⟩ := Library.load_ok_iff.mp hload
    obtain ⟨-, hin, hread⟩ := Library.sourceText_ok_iff.mp hsource
    rw [hr.root_eq] at hread
    exact ⟨hin, hres, source, isBelow_of_readText hl hin hread, hcompile⟩
  case others =>
    intro hl path source hsource
    unfold Library.sources at hsource
    cases hs : w.library.source? w.store path with
    | none => rw [hs] at hsource; cases hsource
    | some file =>
      obtain ⟨hin, rfl, -⟩ := Library.source?_eq_some_iff.mp hs
      rw [hs, hr.root_eq] at hsource
      cases hread : w.store.readText ⟨root.anchor, root.names ++ Path.steps path⟩ with
      | error f => simp only [hread] at hsource; cases hsource
      | ok text =>
        simp only [hread] at hsource
        cases hsource
        exact ⟨hin, isBelow_of_readText hl hin hread⟩
  case outward =>
    intro path data hout
    have hk : path ∉ w.library.keptPaths := fun hm => hr.inward hm hout
    obtain ⟨f, hf, hload⟩ := w.library.load_of_outward w.store hout
    rw [Library.holds, Library.locate, hr.root_eq] at hf
    exact ⟨hk, f, hf, Library.render_of_unloadable (Library.not_mem_keptPaths.mp hk) hload data⟩

/-- A disk with a template inside the root `/t` and one of the same name outside. -/
def twoTemplates : Store :=
  (((Store.empty.insert ["t"] .directory).insert ["a.j2", "t"] (.file "inside".toUTF8)).insert
    ["a.j2"] (.file "outside".toUTF8))

/-- A first slash does not leave the root, and two dots do not either, though a file is there. -/
example :
    let lib : Library engine := .new (some (Path.ofString "/t"))
    (lib.render twoTemplates "/a.j2" []).1.toOption = some (.ofString "inside") ∧
      (lib.holds twoTemplates "../a.j2").toOption = some true ∧
      (lib.render twoTemplates "../a.j2" []).1.toOption = none := by
  decide +kernel

end Template

end Scaffold
