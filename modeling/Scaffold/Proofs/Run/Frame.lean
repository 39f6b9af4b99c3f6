import Scaffold.Proofs.Ledger.Exact
import Scaffold.Proofs.Run.Rollback
import Scaffold.Template.Render

/-!
# What a run leaves alone

Whatever becomes of a run, what was there before and was not asked for is there afterwards as it was
(`at?_scaffold_of_not_requested`): the recipes change only what they ask for, no such place is
listed unless it is new, and a root that goes at the end was not there.
-/

namespace Scaffold

open Store
open Run (World)

variable {E : Template.Engine} {b : Blueprint} {recipes : List Recipe} {world : World E}
  {root : Path} {s₀ s : Store} {asked blank : Loc → Prop} {locs : List Loc} {loc : Loc} {e : Entry}
  {existed : Bool}

theorem Accounted.at?_undoRun_of_unasked (h : Accounted root s₀ asked blank s locs)
    (hs : s₀.IsPlain) (hr : root.IsPlain) (hex : s₀.exists? root = .ok existed)
    (he : s₀.at? loc = some e) (ha : ¬ asked loc) :
    (Run.undoRun s root existed (locs.map (label root.anchor))).2.at? loc = some e := by
  have hn : loc ∉ locs.reverse := fun hin => h.not_listed he ha (List.mem_reverse.mp hin)
  rw [h.at?_undoRun hs hr hex (by simp [he]), at?_sweep_of_not_mem hn, h.unasked he ha]

/-- What the recipes left alone stays so in the end, if it was not there or was not asked for. -/
theorem at?_scaffold_of_left (opts : Options) (hs : world.store.IsPlain)
    (hroot : ".." ∉ b.site.root.names)
    (hin : ∀ path ∈ Run.requests b recipes world, IsInner path)
    (hleft : (Run.leftBy b recipes world).at? loc = world.store.at? loc)
    (hask : (world.store.at? loc).isSome → ¬ Run.IsRequested b recipes world loc) :
    (Run.scaffold opts b recipes world).2.store.at? loc = world.store.at? loc := by
  have hr := site_root_isPlain b hroot
  obtain ⟨locs, hcreated, hacc⟩ := progress_accounted hs hr hin
  cases hex : world.store.exists? b.site.root with
  | error f => rw [scaffold_early hex]
  | ok existed =>
    rw [scaffold_eq_conclude hex]
    rcases conclude_store opts b.site.root existed (Run.progress b recipes .empty world) with
      hst | hst
    · rw [hst]
      exact hleft
    · rw [hst, hcreated]
      cases he : world.store.at? loc with
      | none => exact (hacc.undoRun_keeps hr existed).at?_eq_none (hleft.trans he)
      | some e => exact hacc.at?_undoRun_of_unasked hs hr hex he (hask (by rw [he]; rfl))

/-- **Runs touch only what is asked for.** In a store without links and below a root without `..`,
where recipes ask for nothing outside the root: what was there before a run and was not passed on to
be written or created is there after it, of the same kind and with the same content, whether the run
went through, failed, or was undone. -/
theorem at?_scaffold_of_not_requested (opts : Options) (hs : world.store.IsPlain)
    (hroot : ".." ∉ b.site.root.names)
    (hin : ∀ path ∈ Run.requests b recipes world, IsInner path)
    (he : world.store.at? loc = some e) (hask : ¬ Run.IsRequested b recipes world loc) :
    (Run.scaffold opts b recipes world).2.store.at? loc = some e := by
  obtain ⟨locs, -, hacc⟩ := progress_accounted hs (site_root_isPlain b hroot) hin
  have hleft : (Run.leftBy b recipes world).at? loc = world.store.at? loc :=
    (hacc.unasked he hask).trans he.symm
  rw [at?_scaffold_of_left opts hs hroot hin hleft fun _ => hask, he]

def sampleChoices (target : String) : Choices :=
  ⟨"app", .javascript, .esm, .absent, .absent, target⟩

/-- A blueprint for a root that is there. -/
def sampleBlueprint : Blueprint := ⟨sampleChoices "/srv", by decide +kernel⟩

def sampleWorld : World Template.engine := ⟨sampleStore, .new none⟩

/-- Carries out commands and then fails: there is no such file to copy. -/
def brokenRecipe (cs : List Command) : Recipe :=
  ⟨"Broken", fun _ => .ofCommands (cs ++ [.copyStatic "none.txt" "copy.txt"])⟩

theorem at?_scaffold_of_undone :
    let recipes := [brokenRecipe [.writeFile "src/app.js" "text", .createDirectory "docs"]]
    let after := (Run.scaffold .default sampleBlueprint recipes sampleWorld).2.store
    sampleWorld.store.IsPlain ∧ ".." ∉ sampleBlueprint.site.root.names ∧
      Run.requests sampleBlueprint recipes sampleWorld = ["src/app.js", "docs"] ∧
      after.entries.length = 2 ∧ after.at? ["old", "srv"] = some (.file .empty) := by
  intro recipes after
  have hroot : ".." ∉ sampleBlueprint.site.root.names := by decide +kernel
  have hreq : Run.requests sampleBlueprint recipes sampleWorld = ["src/app.js", "docs"] := by
    decide +kernel
  have hin : ∀ path ∈ Run.requests sampleBlueprint recipes sampleWorld, IsInner path := by
    rw [hreq]; decide +kernel
  have hask : ¬ Run.IsRequested sampleBlueprint recipes sampleWorld ["old", "srv"] := by
    unfold Run.IsRequested
    rw [hreq]; decide +kernel
  have hold : sampleWorld.store.at? ["old", "srv"] = some (.file .empty) :=
    at?_insert_self (by decide)
  exact ⟨sampleStore_isPlain, hroot, hreq, by decide +kernel,
    at?_scaffold_of_not_requested .default sampleStore_isPlain hroot hin hold hask⟩

end Scaffold
