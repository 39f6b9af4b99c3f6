import Scaffold.Blueprint.File
import Scaffold.Proofs.Blueprint.Record
import Scaffold.Proofs.Json.ReadBack
import Scaffold.Proofs.Store.Reading

/-!
# Stored blueprints come back

The file text of a blueprint is read as its record (`ofText_fileText`) and holds no line end that
reading a file would change (`unifyLineEnds_fileText`). So whatever a blueprint was saved as,
wherever that was possible, is loaded as the same blueprint (`load_save`).
-/

namespace Scaffold.Blueprint

open Json

theorem isLegible_record (b : Blueprint) : (obj b.record).IsLegible := by
  simp [record, entries, IsLegible, AreLegibleFields]

theorem ofText_fileText (b : Blueprint) : Choices.ofText b.fileText.toList = .ok b.choices := by
  have hread : parseWithin? Choices.textLimits b.fileText.toList = some (obj b.record) := by
    refine parseWithin?_pretty b.isLegible_record ?_ ?_
    · simp [entries, tokens, fieldTokens, moreFieldTokens, Limits.admits]
    · simp [entries, depth, fieldsDepth, Choices.textLimits]
  rw [Choices.ofText, hread]
  exact b.ofFields_record

/-- The file holds no line end that a reader of text would change. -/
theorem unifyLineEnds_fileText (b : Blueprint) :
    Text.unifyLineEnds b.fileText.toList = b.fileText.toList := by
  refine Text.unifyLineEnds_of_notMem ?_
  rw [fileText, pretty, String.toList_ofList]
  exact return_notMem_chars 0 _ b.isLegible_record

/-- **A saved blueprint is loaded as itself.** On every disk, with links or without, and wherever it
could be saved, a blueprint is loaded from there as the same blueprint, whatever characters its
target has, and a line feed at the end of its name too. -/
theorem load_save (b : Blueprint) (s : Store) (path : String)
    (h : (b.save s (Path.ofString path)).1 = .ok ()) :
    load (b.save s (Path.ofString path)).2 path = .ok b := by
  have hread := Store.readText_writeBelow h
  rw [b.unifyLineEnds_fileText] at hread
  unfold load save
  rw [hread]
  simp only [bind, Except.bind, b.ofText_fileText, b.accept_choices]
  rfl

def awkwardBlueprint : Blueprint where
  choices := ⟨"a\n", .javascript, .commonjs, .mongo, .absent, "/\r\n\"\\\x00\t\u00e9\u2028"⟩
  accepted := by decide

/-- A directory with a link to a file that is not there yet. -/
def linkedDisk : Store :=
  (Store.empty.insert ["srv"] .directory).insert ["plan.json", "srv"] (.link "b.json")

theorem load_save_through_link :
    (awkwardBlueprint.save linkedDisk (Path.ofString "/srv/plan.json")).1 = .ok () ∧
      load (awkwardBlueprint.save linkedDisk (Path.ofString "/srv/plan.json")).2 "/srv/plan.json" =
        .ok awkwardBlueprint := by
  have hempty : (linkedDisk.writeBelow (Path.ofString "/srv/plan.json") "").1 = .ok () := by
    decide
  have hsaved : (awkwardBlueprint.save linkedDisk (Path.ofString "/srv/plan.json")).1 = .ok () :=
    Store.writeBelow_ok_of_ok hempty (by simp)
  exact ⟨hsaved, load_save awkwardBlueprint linkedDisk "/srv/plan.json" hsaved⟩

end Scaffold.Blueprint
