import Scaffold.Proofs.Store.Linkless
import Scaffold.Proofs.Store.Reading
import Scaffold.Proofs.Template.History

/-!
# Where templates come from

The `steps` of a path are its segments without the empty ones and the single dots. The source of a
template is the text that the steps lead to below the root of the library, if no segment is `..` and
the question about the path is answered with yes (`sourceText_ok_iff`).
-/

namespace Scaffold

namespace Path

variable {text name : String}

/-- What stands between the slashes of a text. -/
def segments (text : String) : List String := (text.toList.splitOn '/').map String.ofList

/-- The segments that are neither empty nor a single dot. -/
def steps (text : String) : List String := (segments text).filter fun name => name ≠ "" ∧ name ≠ "."

theorem names_ofString (text : String) : (ofString text).names = steps text := by
  have hname : ∀ cs : List Char,
      isName cs = decide (String.ofList cs ≠ "" ∧ String.ofList cs ≠ ".") := by
    intro cs
    have hdot : String.ofList cs = "." ↔ cs = ['.'] := by
      rw [← String.toList_inj, String.toList_ofList]
      rfl
    simp [isName, hdot]
  simp only [ofString, ofChars, steps, segments, List.filter_map]
  congr 2
  funext cs
  exact hname cs

theorem outward_mem_steps : ".." ∈ steps text ↔ ".." ∈ segments text := by
  simp [steps]

theorem isStep_of_mem_steps (h : ".." ∉ segments text) (hn : name ∈ steps text) : IsStep name := by
  obtain ⟨hm, hne⟩ := List.mem_filter.mp hn
  rw [decide_eq_true_eq] at hne
  exact ⟨hne.1, hne.2, fun he => h (he ▸ hm)⟩

theorem not_outward_of_isInner (h : IsInner text) : ".." ∉ segments text := by
  rw [← outward_mem_steps, ← names_ofString]
  exact h.2

end Path

namespace Template

open Store

namespace Library

variable {E : Engine} {lib : Library E} {s : Store} {path : String} {file : Path}
  {source : List Char}

theorem locate_of_isInner (h : IsInner path) :
    lib.locate path = ⟨lib.root.anchor, lib.root.names ++ Path.steps path⟩ := by
  rw [locate, Path.child_of_isInner h, Path.names_ofString]

theorem templateNames?_eq (path : String) : templateNames? path =
    if ".." ∈ Path.segments path then none else some (Path.steps path) := by
  unfold templateNames?
  rw [Path.names_ofString]
  exact if_congr (by simpa using Path.outward_mem_steps) rfl rfl

/-- A source is found where the steps of its path lead to below the root. -/
theorem source?_eq_some_iff : lib.source? s path = some file ↔
    ".." ∉ Path.segments path ∧ file = ⟨lib.root.anchor, lib.root.names ++ Path.steps path⟩ ∧
      s.isFile? file = .ok true := by
  unfold source?
  rw [templateNames?_eq]
  split
  · next hout => exact iff_of_false nofun fun h => h.1 hout
  next hin =>
  rw [and_iff_right hin, Option.bind_eq_bind, Option.bind_some]
  dsimp only
  split
  · next hthere =>
    constructor
    · rintro ⟨⟩
      exact ⟨rfl, hthere⟩
    · rintro ⟨rfl, -⟩
      rfl
  · next hnot => exact iff_of_false nofun fun ⟨he, hthere⟩ => hnot (he ▸ hthere)

/-- The source of a template is the text at the steps of its path below the root, if there is
something at the path too. -/
theorem sourceText_ok_iff : lib.sourceText s path = .ok source ↔
    lib.holds s path = .ok true ∧ ".." ∉ Path.segments path ∧
      s.readText ⟨lib.root.anchor, lib.root.names ++ Path.steps path⟩ = .ok source := by
  unfold sourceText
  cases hh : lib.holds s path with
  | error f => exact iff_of_false nofun nofun
  | ok there =>
    cases there with
    | false => exact iff_of_false nofun nofun
    | true =>
      rw [and_iff_right rfl]
      cases hs : lib.source? s path with
      | none =>
        refine iff_of_false nofun fun ⟨hin, hr⟩ => ?_
        rw [source?_eq_some_iff.mpr ⟨hin, rfl, isFile?_of_readText hr⟩] at hs
        cases hs
      | some file =>
        obtain ⟨hin, rfl, -⟩ := source?_eq_some_iff.mp hs
        exact (and_iff_right hin).symm

theorem sourceText_ok_iff_of_isInner (h : IsInner path) :
    lib.sourceText s path = .ok source ↔ s.readText (lib.locate path) = .ok source := by
  rw [sourceText_ok_iff, ← locate_of_isInner h]
  constructor
  · exact fun ⟨_, _, hr⟩ => hr
  · exact fun hr => ⟨isFile?_of_readText hr, Path.not_outward_of_isInner h, hr⟩

end Library

end Template

end Scaffold
