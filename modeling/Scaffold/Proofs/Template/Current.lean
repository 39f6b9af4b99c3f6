import Scaffold.Proofs.Template.Source

/-!
# Libraries that are current

A library is current if everything that it keeps is what it would load from the disk now
(`IsCurrent`): a fresh library, one that has forgotten everything, and one that was only used while
its files stayed as they were. What a current library renders does not depend on what it keeps
(`IsCurrent.render_fst`). A disk `Spares` its templates if their files stay; then a template that
could be loaded is loaded again as the same tree (`Spares.load`).
-/

namespace Scaffold

namespace Store

variable {s t : Store} {p : Path} {name : String} {cs : List Char}

/-- The files whose last name is of some kind stay as they are. -/
def Spares (P : String → Prop) (s t : Store) : Prop :=
  ∀ name dir content, P name → s.at? (name :: dir) = some (.file content) →
    t.at? (name :: dir) = some (.file content)

theorem Spares.refl (P : String → Prop) (s : Store) : s.Spares P s := fun _ _ _ _ h => h

theorem Spares.readText {P : String → Prop} (h : s.Spares P t) (hk : s.Keeps t)
    (hl : ∀ l target, s.at? l ≠ some (.link target)) (hp : p.names.getLast? = some name)
    (hn : IsStep name) (hP : P name) (hr : s.readText p = .ok cs) :
    t.readText p = .ok cs := by
  obtain ⟨hnul, loc, content, text, hpl, hat, hutf, htext⟩ := readText_ok_iff.mp hr
  have hlast := place_last hl hn hp hpl
  cases loc with
  | nil => cases hlast
  | cons m dir =>
    cases hlast
    exact readText_ok_iff.mpr ⟨hnul, _, content, text, hk.place_entry hpl,
      h _ _ _ hP hat, hutf, htext⟩

end Store

namespace Template

open Store

def IsTemplateName (name : String) : Prop := ['.', 'j', '2'] <:+ name.toList

instance (name : String) : Decidable (IsTemplateName name) := by
  unfold IsTemplateName; infer_instance

/-- A path inside a library that leads to a template file. -/
structure IsTemplatePath (path : String) : Prop where
  inner : IsInner path
  last : ∃ name, (Path.ofString path).names.getLast? = some name ∧ IsTemplateName name

namespace Library

variable {E : Engine} {lib : Library E} {s t : Store} {path : String} {tree : E.Tree}

theorem load_ok_iff_readText (h : IsInner path) : lib.load s path = .ok tree ↔
    ∃ source, s.readText (lib.locate path) = .ok source ∧ E.compile path source = .ok tree := by
  rw [load_ok_iff]
  exact exists_congr fun source => and_congr_left fun _ => sourceText_ok_iff_of_isInner h

theorem locate_last (h : IsTemplatePath path) : ∃ name, IsTemplateName name ∧
    (lib.locate path).names.getLast? = some name ∧ IsStep name := by
  obtain ⟨name, hlast, hname⟩ := h.last
  rw [Path.names_ofString] at hlast
  have hin : ".." ∉ Path.segments path := Path.not_outward_of_isInner h.inner
  refine ⟨name, hname, ?_, Path.isStep_of_mem_steps hin (List.mem_of_getLast? hlast)⟩
  rw [locate_of_isInner h.inner, List.getLast?_append, hlast]
  rfl

/-- A template that could be loaded is loaded again, as the same tree, if its disk spares it. -/
theorem load_of_spares (hsp : s.Spares IsTemplateName t) (hk : s.Keeps t)
    (hl : ∀ l target, s.at? l ≠ some (.link target)) (hp : IsTemplatePath path)
    (h : lib.load s path = .ok tree) : lib.load t path = .ok tree := by
  obtain ⟨source, hread, hc⟩ := (load_ok_iff_readText hp.inner).mp h
  obtain ⟨name, hname, hlast, hdots⟩ := lib.locate_last hp
  exact (load_ok_iff_readText hp.inner).mpr
    ⟨source, hsp.readText hk hl hlast hdots hname hread, hc⟩

/-! ## Current libraries -/

/-- What is kept under template paths is what would be loaded now. -/
def IsCurrent (lib : Library E) (s : Store) : Prop :=
  ∀ path tree, IsTemplatePath path → lib.kept.lookup path = some tree → lib.load s path = .ok tree

theorem IsCurrent.of_empty (h : lib.kept = []) : lib.IsCurrent s := by
  intro path tree _ hk
  rw [h] at hk
  cases hk

theorem IsCurrent.of_kept {lib' : Library E} (h : lib.IsCurrent s) (hroot : lib'.root = lib.root)
    (hkept : lib'.kept = lib.kept) : lib'.IsCurrent s := by
  intro path tree hp hlook
  rw [load_of_root hroot]
  exact h path tree hp (hkept ▸ hlook)

/-- A current library renders as if it kept nothing. -/
theorem IsCurrent.render_fst (h : lib.IsCurrent s) (hp : IsTemplatePath path) (data : Data) :
    (lib.render s path data).1 =
      lib.load s path >>= fun tree => (lib.renderTree s tree data).1 := by
  rcases lib.render_cases s path data with ⟨tree, hk, hr⟩ | ⟨-, ⟨tree, hl, hr⟩ | ⟨f, hl, hr⟩⟩
  · rw [hr, h path tree hp hk]; rfl
  · rw [hr, hl]; rfl
  · rw [hr, hl]; rfl

theorem render_root (lib : Library E) (s : Store) (path : String) (data : Data) :
    (lib.render s path data).2.root = lib.root := by
  rcases lib.render_cases s path data with ⟨tree, -, hr⟩ | ⟨-, ⟨tree, -, hr⟩ | ⟨f, -, hr⟩⟩ <;>
    rw [hr]
  · exact renderTree_root lib s tree data
  · exact renderTree_root (lib.keeping path tree) s tree data

/-- Rendering keeps a library current. -/
theorem IsCurrent.render_snd (h : lib.IsCurrent s) (path : String) (data : Data) :
    (lib.render s path data).2.IsCurrent s := by
  rcases lib.render_cases s path data with ⟨tree, -, hr⟩ | ⟨hk, ⟨tree, hl, hr⟩ | ⟨f, -, hr⟩⟩
  · rw [hr]
    intro p t hp hlook
    rw [load_of_root (renderTree_root lib s tree data)]
    exact h p t hp hlook
  · rw [hr]
    intro p t hp hlook
    have hload : (lib.keeping path tree).load s p = lib.load s p := load_of_root rfl s p
    rw [load_of_root (renderTree_root (lib.keeping path tree) s tree data), hload]
    rw [renderTree_kept, keeping, List.lookup_cons] at hlook
    by_cases he : p = path
    · subst he
      simp only [beq_self_eq_true, Option.some.injEq] at hlook
      rw [hl, hlook]
    · simp only [show (p == path) = false by simpa using he] at hlook
      exact h p t hp hlook
  · rw [hr]; exact h

theorem IsCurrent.of_spares (h : lib.IsCurrent s) (hsp : s.Spares IsTemplateName t)
    (hk : s.Keeps t) (hl : ∀ l target, s.at? l ≠ some (.link target)) : lib.IsCurrent t :=
  fun path tree hp hlook => load_of_spares hsp hk hl hp (h path tree hp hlook)

end Library

end Template

end Scaffold
