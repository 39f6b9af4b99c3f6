import Scaffold.Proofs.Run.Fresh

/-!
# Running again

A run of the standard recipes that went through has settled all its tasks. So the same run right
after it goes through as well and leaves the disk as it is, whether it is given the same library,
one that has forgotten everything, or a fresh one (`scaffold_again`). All this is for templates that
are steady: one that tells from the state of the engine that it was rendered before may give another
text the second time.
-/

namespace Scaffold

open Store Template
open Run (World)

variable {E : Template.Engine} {opts : Options} {b : Blueprint} {recipes : List Recipe}
  {record record' : Record} {world world' : World E} {existed : Bool}

theorem mem_putLedger {name : String} {ledger : List String} {l : List (String × List String)}
    {e : String × List String} (h : e ∈ Record.putLedger name ledger l) :
    e = (name, ledger) ∨ e ∈ l := by
  induction l with
  | nil => exact .inl (List.mem_singleton.mp h)
  | cons e' l ih =>
    unfold Record.putLedger at h
    split at h
    · next heq =>
      rcases List.mem_cons.mp h with rfl | h
      · exact .inl (by rw [heq])
      · exact .inr (List.mem_cons_of_mem _ h)
    · rcases List.mem_cons.mp h with rfl | h
      · exact .inr List.mem_cons_self
      · exact (ih h).imp_right (List.mem_cons_of_mem _)

/-- What any recipe listed is among all that was created. -/
theorem progress_ledgers (h : ∀ e ∈ record.byRecipe, ∀ key ∈ e.2, key ∈ record.created) :
    let p := Run.progress b recipes record world
    ∀ e ∈ p.record.byRecipe, ∀ key ∈ e.2, key ∈ p.record.created := by
  induction recipes generalizing record world with
  | nil => exact h
  | cons r rest ih =>
    have hstep : ∀ w : Workshop E, ∀ e ∈ (record.collect r.name w.ledger).byRecipe,
        ∀ key ∈ e.2, key ∈ (record.collect r.name w.ledger).created := by
      intro w e he key hk
      rcases mem_putLedger he with rfl | he
      · exact mem_merge.mpr (.inr hk)
      · exact mem_merge.mpr (.inl (h e he key hk))
    unfold Run.progress
    cases r.run b world.store world.library with
    | mk result w =>
      cases result with
      | ok _ => exact ih (hstep w)
      | error f => exact hstep w

/-- **Running again changes nothing.** In a store without links and below a root without `..`: if a
run of the standard recipes with a fresh library went through, and all that it rendered is steady,
then the same run right after it goes through as well, with the library as it is then, with
everything forgotten, or with another fresh one; whatever state the renderings have left behind. It
leaves every place as it is, and all that it lists, in whole or for a recipe, the first run has
listed. -/
theorem scaffold_again (opts : Options) (hroot : ".." ∉ b.site.root.names) {s : Store}
    (hs : s.IsPlain) (templates : Option Path)
    (hsteady : ∀ t ∈ b.tasks, b.site.IsSteady (.new templates : Library E) s t.command)
    (h : Run.scaffold opts b Recipe.standard ⟨s, (.new templates : Library E)⟩ =
      (.ok record, world)) {lib : Library E} (hlib : lib.root = world.library.root)
    (hkept : lib.kept = world.library.kept ∨ lib.kept = []) :
    ∃ record' world', Run.scaffold opts b Recipe.standard ⟨world.store, lib⟩ =
        (.ok record', world') ∧
      (∀ loc, world'.store.at? loc = world.store.at? loc) ∧
      (∀ key ∈ record'.created, key ∈ record.created) ∧
      ∀ e ∈ record'.byRecipe, ∀ key ∈ e.2, key ∈ record.created := by
  have hplain := site_root_isPlain b hroot
  have htidy := tasks_areTidy b b.site
  obtain ⟨-, hprogress, hcheck⟩ := scaffold_ok_iff.mp h
  have hfresh : (.new templates : Library E).IsCurrent s := .of_empty rfl
  have hrun := runAll_of_progress hprogress
  have hfollows := runAll_follows hplain htidy.tidy hs hfresh hrun
  have hsettled := runAll_settles hplain htidy hs hfresh hsteady hrun
  have hs' : world.store.IsPlain := hfollows.plain
  have hcurrent : lib.IsCurrent world.store := by
    rcases hkept with hsame | hnone
    · exact Library.IsCurrent.of_kept hfollows.current hlib hsame
    · exact .of_empty hnone
  have hagrees : Workshop.Agrees ⟨world.store, world.library, record.created⟩
      ⟨world.store, lib, []⟩ := ⟨fun _ => rfl, hlib, hcurrent⟩
  obtain ⟨w, hrun, hw, hnew⟩ := runAll_of_settled hplain hs' hfollows.current
    (fun t ht => ⟨htidy.tidy t ht, hfollows.isSteady htidy.spares (hsteady t ht),
      hsettled t ht⟩) hagrees
  obtain ⟨record', world', hprogress', hw'⟩ :=
    @progress_of_runAll E b ⟨world.store, lib⟩ w hrun
  have hex : ∃ existed, world.store.exists? b.site.root = .ok existed := by
    obtain ⟨t, ht⟩ := tasks_nonempty b
    have hpath : (b.site.locate t.path).IsPlain :=
      Path.child_isPlain hplain (htidy.tidy t ht).inner
    have hfits := (hsettled t ht).fits.of_suffix hpath.anchored
      (Path.root_suffix_child (htidy.tidy t ht).inner)
    rw [Site.locate, Path.anchor_child (htidy.tidy t ht).inner, Path.pathTo_loc] at hfits
    exact ⟨_, exists?_of_fits hs' hplain hfits⟩
  have hcreated : ∀ key ∈ record'.created, key ∈ record.created := by
    intro key hk
    have hk' : key ∈ w.ledger := by rw [← hw']; exact hk
    exact (hnew key hk').resolve_left (List.not_mem_nil)
  refine ⟨record', world', scaffold_ok_iff.mpr ⟨hex, hprogress', ?_⟩, fun loc => ?_, hcreated, ?_⟩
  · rw [check_notice_congr record' record, hcheck]
  · have hview := hw.view loc
    rw [← hw'] at hview
    exact hview
  · have hledgers := @progress_ledgers E b Recipe.standard .empty ⟨world.store, lib⟩
      (List.forall_mem_nil _)
    rw [hprogress'] at hledgers
    exact fun e he key hk => hcreated key (hledgers e he key hk)

theorem scaffold_again_of_fresh :
    ".." ∉ freeBlueprint.site.root.names ∧ freeWorld.store.IsPlain ∧
      (∀ t ∈ freeBlueprint.tasks, freeBlueprint.site.IsSteady freeWorld.library freeStore
        t.command) ∧
      ∃ record world, Run.scaffold .default freeBlueprint Recipe.standard freeWorld =
          (.ok record, world) ∧
        ∃ record' world', Run.scaffold .default freeBlueprint Recipe.standard
            ⟨world.store, world.library.forget⟩ = (.ok record', world') ∧
          (∀ loc, world'.store.at? loc = world.store.at? loc) ∧
          (∀ key ∈ record'.created, key ∈ record.created) ∧
          ∀ e ∈ record'.byRecipe, ∀ key ∈ e.2, key ∈ record.created := by
  have hlib : freeWorld.library.HasBundled freeStore := hasBundled_install freeStore_isPlain
  have hfresh : IsFresh freeBlueprint freeWorld := isFresh_of_mem (by simp) hlib
  have hplain : ∀ c ∈ freeBlueprint.site.root.text.toList, Markup.Tag.IsPlainChar c :=
    Markup.Tag.isPlainChar_of_all (by decide +kernel)
  have hsteady : ∀ t ∈ freeBlueprint.tasks, freeBlueprint.site.IsSteady freeWorld.library
      freeStore t.command := fun t ht =>
    isSteady_of_mem hlib freeStore_isPlain (defaults_areAkin rfl).left ht
  obtain ⟨record, world, h⟩ := hfresh.exists_ok .default hplain
  exact ⟨hfresh.inward, freeStore_isPlain, hsteady, record, world, h,
    scaffold_again .default hfresh.inward freeStore_isPlain none hsteady h rfl (.inr rfl)⟩

end Scaffold
