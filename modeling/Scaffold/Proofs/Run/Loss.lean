import Scaffold.Proofs.Run.Frame

/-!
# What undoing takes away

A ledger names also files that were there and were written again, and directories that were there
and were asked for; and a root that is a link to nothing counts as missing. Undoing removes them
like all the rest. `lost_iff_struck` says exactly which entries from before a failed run are lost by
it.
-/

namespace Scaffold

open Store
open Scaffold.Path (pathTo)
open Run (World)

/-- The places that a failure's ledger spells, the newest first. -/
def Failure.places (f : Failure) : List Loc :=
  f.created.reverse.map fun key => (Path.ofString key).loc

variable {E : Template.Engine} {b : Blueprint} {recipes : List Recipe} {world : World E}
  {root : Path} {s₀ s : Store} {asked blank : Loc → Prop} {locs : List Loc} {loc : Loc}
  {existed : Bool} {f : Failure}

theorem Accounted.places_eq (h : Accounted root s₀ asked blank s locs)
    (hf : f.created = locs.map (label root.anchor)) : f.places = locs.reverse := by
  unfold Failure.places
  rw [hf, ← List.map_reverse, List.map_map]
  refine (List.map_congr_left fun loc hin => ?_).trans (List.map_id _)
  have hp := (h.recorded loc (List.mem_reverse.mp hin)).1
  rw [Function.comp_apply, label, hp.ofString_text, Path.loc_pathTo, id]

/-- Undoing an account takes away what its places sweep out. -/
theorem Accounted.undoRun_lost_iff (h : Accounted root s₀ asked blank s locs) (hs : s₀.IsPlain)
    (hr : root.IsPlain) (hex : s₀.exists? root = .ok existed) (hsome : (s₀.at? loc).isSome) :
    (Run.undoRun s root existed (locs.map (label root.anchor))).2.at? loc = none ↔
      s.IsSweptOut locs.reverse loc := by
  have hthere : (s.at? loc).isSome := by
    obtain ⟨e, he⟩ := Option.isSome_iff_exists.mp hsome
    obtain ⟨e', he', -⟩ := h.kept loc e he
    simp [he']
  have hnodup : locs.reverse.Nodup := List.pairwise_reverse.mpr (h.nodup.imp Ne.symm)
  rw [h.at?_undoRun hs hr hex hsome]
  exact at?_sweep_eq_none_iff h.plain hnodup hthere

/-- **What a failed run takes away.** A run that fails and is undone loses a file from before it,
in a store without links and below a root without `..`, exactly if it was written again; any other
entry exactly if it is recorded and everything below it is recorded after the directory it lies in.
In a store with links what a recorded path leads to depends on what was removed before its turn, and
a root that is a link to nothing counts as one more recorded path: only what these led to in the
store that the recipes left can be lost, and it is lost exactly if it is struck in turn. -/
theorem lost_iff_struck (opts : Options) (hundo : opts.undoOnFailure = true)
    (hf : (Run.scaffold opts b recipes world).1 = .error (.failed f)) :
    ∃ existed, world.store.exists? b.site.root = .ok existed ∧
      (∀ loc, (world.store.at? loc).isSome →
        ((Run.scaffold opts b recipes world).2.store.at? loc = none ↔
          (Run.leftBy b recipes world).IsStruck (doomed b.site.root existed f.created) loc)) ∧
      (∀ loc, (Run.leftBy b recipes world).IsStruck (doomed b.site.root existed f.created) loc →
        ∃ p ∈ doomed b.site.root existed f.created,
          (Run.leftBy b recipes world).place .itself p = .entry loc) ∧
      (world.store.IsPlain → ".." ∉ b.site.root.names →
        (∀ path ∈ Run.requests b recipes world, IsInner path) →
        (∀ loc, (world.store.at? loc).isSome →
          ((Run.scaffold opts b recipes world).2.store.at? loc = none ↔
            (Run.leftBy b recipes world).IsSweptOut f.places loc)) ∧
        ∀ loc content, world.store.at? loc = some (.file content) →
          ((Run.scaffold opts b recipes world).2.store.at? loc = none ↔ loc ∈ f.places)) := by
  cases hex : world.store.exists? b.site.root with
  | error f => rw [scaffold_early hex] at hf; cases hf
  | ok existed =>
    rw [scaffold_eq_conclude hex] at hf ⊢
    obtain ⟨hfails, hcreated, hclear⟩ := conclude_failed hundo hf
    have hkeeps : world.store.Keeps (Run.leftBy b recipes world) :=
      progress_keeps b recipes .empty world
    refine ⟨existed, rfl, fun loc hsome => clear_lost hclear (hkeeps.isSome hsome),
      fun loc => IsStruck.place, fun hs hroot hin => ?_⟩
    have hr := site_root_isPlain b hroot
    obtain ⟨locs, hlocs, hacc⟩ := progress_accounted hs hr hin
    rw [conclude_undone hfails hundo, hlocs, hacc.places_eq (hcreated.trans hlocs)]
    have hlost : ∀ loc, (world.store.at? loc).isSome → _ :=
      fun loc hsome => hacc.undoRun_lost_iff hs hr hex hsome
    refine ⟨hlost, fun loc content hfile => ?_⟩
    obtain ⟨content', hfile'⟩ := hkeeps.file hfile
    rw [hlost loc (by simp [hfile])]
    exact isSweptOut_file hacc.plain hfile'

def overwriting : List Recipe := [brokenRecipe [.writeFile "old" "new", .createDirectory "docs"]]

/-- The file and the directory that are asked for are there. -/
def overwrittenWorld : World Template.engine :=
  ⟨sampleStore.insert ["docs", "srv"] .directory, .new none⟩

theorem overwrittenWorld_isPlain : overwrittenWorld.store.IsPlain := by
  refine sampleStore_isPlain.insert ?_ ?_ (by simp)
  · exact (at?_insert_of_ne (by decide)).trans (at?_insert_self (by decide))
  · intro h
    rw [sampleStore, at?_insert_of_ne (by decide), at?_insert_of_ne (by decide)] at h
    cases h

/-- The root is a link to nothing. -/
def danglingWorld : World Template.engine :=
  ⟨(Store.empty.insert ["srv"] .directory).insert ["app", "srv"] (.link "nowhere"), .new none⟩

def danglingBlueprint : Blueprint := ⟨sampleChoices "/srv/app", by decide⟩

def missingFile : Fault := .staticMissing "none.txt" "/usr/share/scaffold/templates/none.txt"

def overwritingFailure : Failure := ⟨"Broken", missingFile, ["/srv/old", "/srv/docs"], true⟩

def danglingFailure : Failure := ⟨"Broken", missingFile, [], true⟩

theorem lost_iff_struck_of_overwritten :
    (Run.scaffold .default sampleBlueprint overwriting overwrittenWorld).1 =
        .error (.failed overwritingFailure) ∧
      (∀ loc ∈ [["old", "srv"], ["docs", "srv"]], (overwrittenWorld.store.at? loc).isSome ∧
        (Run.leftBy sampleBlueprint overwriting overwrittenWorld).IsSweptOut
          overwritingFailure.places loc) ∧
      (Run.scaffold .default danglingBlueprint [brokenRecipe []] danglingWorld).1 =
        .error (.failed danglingFailure) ∧
      (danglingWorld.store.at? ["app", "srv"]).isSome ∧
      (Run.leftBy danglingBlueprint [brokenRecipe []] danglingWorld).IsStruck
        [danglingBlueprint.site.root] ["app", "srv"] := by
  have hover : (Run.scaffold .default sampleBlueprint overwriting overwrittenWorld).1 =
      .error (.failed overwritingFailure) := by decide +kernel
  have hdangling : (Run.scaffold .default danglingBlueprint [brokenRecipe []] danglingWorld).1 =
      .error (.failed danglingFailure) := by decide +kernel
  obtain ⟨-, -, -, -, hswept⟩ := lost_iff_struck .default rfl hover
  obtain ⟨existed, hex, hstruck, -⟩ := lost_iff_struck .default rfl hdangling
  refine ⟨hover, fun loc hin => ?_, hdangling, by decide, ?_⟩
  · have hsome : ∀ loc ∈ [["old", "srv"], ["docs", "srv"]],
        (overwrittenWorld.store.at? loc).isSome := by decide
    have hlost : ∀ loc ∈ [["old", "srv"], ["docs", "srv"]], ((Run.scaffold .default
        sampleBlueprint overwriting overwrittenWorld).2.store.at? loc).isNone := by decide
    have hreq : ∀ path ∈ Run.requests sampleBlueprint overwriting overwrittenWorld,
        IsInner path := by decide
    have hlostiff := (hswept overwrittenWorld_isPlain (by decide) hreq).1 loc
      (hsome loc hin)
    exact ⟨hsome loc hin, hlostiff.mp (Option.isNone_iff_eq_none.mp (hlost loc hin))⟩
  · have hmissing : danglingWorld.store.exists? danglingBlueprint.site.root = .ok false := by
      decide
    rw [hmissing] at hex
    cases hex
    have hlost : ((Run.scaffold .default danglingBlueprint [brokenRecipe []]
        danglingWorld).2.store.at? ["app", "srv"]).isNone := by decide
    exact (hstruck _ (by decide)).mp (Option.isNone_iff_eq_none.mp hlost)

end Scaffold
