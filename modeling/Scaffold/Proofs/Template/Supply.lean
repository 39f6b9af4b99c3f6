import Scaffold.Bundled
import Scaffold.Proofs.Path.Reading
import Scaffold.Proofs.Template.Tame
import Scaffold.Text.Lines

/-!
# The bundled templates

Each bundled template compiles, is tame, and does not use the place that the project goes to
(`bundled_isPortable`).
-/

namespace Scaffold.Template

/-- The name under which templates find the place that the project goes to. -/
def targetName : String := "target_path"

/-- A template that renders the same wherever the project goes. -/
def Tree.isPortable (t : Tree) : Bool := t.isTame && t.slots.all fun slot => slot.name ≠ targetName

/-- The text that the lines of a bundled template are read as. -/
def sourceOf (lines : List String) : List Char :=
  Text.unifyLineEnds (Bundled.ofLines lines).toList

variable {path : String} {lines : List String} {css : List (List Char)}

theorem toList_ofLines (lines : List String) :
    (Bundled.ofLines lines).toList = lines.flatMap fun line => line.toList ++ ['\n'] := by
  unfold Bundled.ofLines
  induction lines with
  | nil => rfl
  | cons line lines ih =>
    rw [List.map_cons, String.join_cons, String.toList_append, ih]
    simp

/-- The template compiles, as a portable one. -/
def IsPortable (path : String) (lines : List String) : Prop :=
  ∃ tree, Tree.ofSource path (sourceOf lines) = .ok tree ∧ tree.isPortable

theorem compile_sourceOf (h : Spells lines css) : Tree.ofSource path (sourceOf lines) =
    Tree.ofSource path (Text.unifyLineEnds (css.flatMap (· ++ ['\n']))) := by
  rw [sourceOf, toList_ofLines, h.eq_map, List.flatMap_map]
  simp only [String.toList_ofList]

theorem exists_ok_of_any {ε α : Type} {x : Except ε α} {p : α → Bool} (h : x.toOption.any p) :
    ∃ a, x = .ok a ∧ p a := by
  cases x with
  | ok a => exact ⟨a, rfl, h⟩
  | error f => cases h

theorem isPortable_of_spells (h : Spells lines css)
    (hc : (Tree.ofSource path (Text.unifyLineEnds (css.flatMap (· ++ ['\n'])))).toOption.any
      Tree.isPortable) : IsPortable path lines := by
  obtain ⟨tree, htree, hportable⟩ := exists_ok_of_any hc
  exact ⟨tree, (compile_sourceOf h).trans htree, hportable⟩

open Bundled in
/-- **Bundled templates are portable.** -/
theorem bundled_isPortable : ∀ e ∈ Bundled.templates, IsPortable e.1 e.2 := by
  simp only [templates, List.forall_mem_cons]
  refine ⟨?_, ?_, ?_, ?_, ?_, ?_, ?_, ?_, ?_, ?_, ?_, ?_, ?_, ?_, ?_, nofun⟩
  -- the lines are spelled out first, so that only characters are left to be read
  all_goals
    apply isPortable_of_spells
    · simp only [gitignore, tsconfig, healthController, drizzleClient, mongooseClient,
        prismaClient, prismaSchema, errorHandler, notFoundHandler, healthRoute, app,
        serverCommonjsJavascript, serverCommonjsTypescript, serverEsmJavascript,
        serverEsmTypescript]
      repeat' first | exact .nil | apply Spells.cons rfl
    · decide +kernel

end Scaffold.Template
