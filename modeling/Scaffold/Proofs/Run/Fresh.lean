import Scaffold.Proofs.Run.Alike
import Scaffold.Proofs.Run.Frame
import Scaffold.Proofs.Run.Notices

/-!
# Fresh projects

Where nothing stands at the target yet and its parent is a directory (`IsFresh`), a run of the
standard recipes over the bundled templates always comes to its last notice, and has listed exactly
what stands below the root then (`IsBuilt`). Only the notice can still keep the result back: the
target stands in it as it is. Blueprints that differ only in the target get the same tree
(`scaffold_fresh`).
-/

namespace Scaffold

open Store Template
open Run (World)

/-- Nothing stands at the target of a blueprint, which lies in a directory; the system takes all
paths of the project, and the bundled templates are at hand. -/
structure IsFresh (b : Blueprint) (world : World engine) : Prop where
  plain : world.store.IsPlain
  inward : ".." ∉ b.site.root.names
  absent : world.store.at? b.site.root.loc = none
  parent : world.store.at? b.site.root.parent.loc = some .directory
  fits : ∀ t ∈ b.tasks, (b.site.locate t.path).Fits
  bundled : world.library.HasBundled world.store

/-- The project is there as it was recorded: the run came to its last notice, and the record lists
each path below the root once. -/
structure IsBuilt (opts : Options) (b : Blueprint) (world : World engine) (record : Record)
    (after : World engine) : Prop where
  run : Run.scaffold opts b Recipe.standard world =
    (report (record.notice b.site.root) (.ok record), after)
  /-- The result is given, unless the target holds what a notice takes for markup. -/
  given : (∀ c ∈ b.site.root.text.toList, Markup.Tag.IsPlainChar c) →
    report (record.notice b.site.root) (.ok record) = .ok record
  nodup : record.created.Nodup
  exact : ∀ key, key ∈ record.created ↔
    ∃ p : Path, b.site.root ∈ p.ancestors ∧ (after.store.at? p.loc).isSome ∧ key = p.text

variable {b b' : Blueprint} {world world' after : World engine} {record : Record}
  {w : Workshop engine}

theorem fits_of_room (hinward : ".." ∉ b.site.root.names) (hroot : b.site.root.Fits)
    (hroom : b.site.root.text.utf8ByteSize + 36 ≤ pathLimit) :
    ∀ t ∈ b.tasks, (b.site.locate t.path).Fits := by
  intro t ht
  have hd := destination_of_mem ht
  have hspan := hd.span
  exact Path.child_fits hroot (site_root_isPlain b hinward).anchored hd.inner hd.noNul
    (fun name hn => (hd.names name hn).1) (by omega)

namespace IsFresh

variable (h : IsFresh b world)

include h

theorem root_isPlain : b.site.root.IsPlain := site_root_isPlain b h.inward

theorem root_fits : b.site.root.Fits := by
  obtain ⟨t, ht⟩ := tasks_nonempty b
  have hin := (destination_of_mem ht).inner
  have hp : (b.site.locate t.path).IsPlain := Path.child_isPlain h.root_isPlain hin
  have hfits := (h.fits t ht).of_suffix hp.anchored (Path.root_suffix_child hin)
  rwa [Site.locate, Path.anchor_child hin, Path.pathTo_loc] at hfits

theorem none_below {loc : Loc} (hl : b.site.root.loc <:+ loc) : world.store.at? loc = none := by
  by_cases he : b.site.root.loc = loc
  · rw [← he, h.absent]
  · exact h.plain.none_below (by rw [h.absent]; nofun) hl he

theorem isClear : b.site.IsClear world.store ⟨world.store, world.library, []⟩ where
  audited := ⟨[], rfl, .start h.plain _ _ _⟩
  bundled := h.bundled
  way l hl := by
    by_cases he : l = b.site.root.loc
    · rw [he]; exact .inl h.absent
    · refine h.plain.isOpen h.parent l ?_
      rw [Path.loc_parent]
      cases hloc : b.site.root.loc with
      | nil =>
        rw [hloc] at hl he
        exact absurd (List.suffix_nil.mp hl) he
      | cons name dir =>
        rw [hloc] at hl he
        exact (List.suffix_cons_iff.mp hl).resolve_left he
  shaped name dir e hdir he := by
    have hnone : world.store.at? (name :: dir) = none :=
      h.none_below (hdir.trans (List.suffix_cons _ _))
    cases hnone.symm.trans he
  listed := nofun

theorem isBuilt (opts : Options)
    (hrun : b.site.runAll b.tasks ⟨world.store, world.library, []⟩ = (.ok (), w))
    (hw : b.site.IsClear world.store w) :
    ∃ record after, IsBuilt opts b world record after ∧ after.store = w.store := by
  obtain ⟨record, after, hprogress, rfl⟩ := progress_of_runAll hrun
  have hledger := hw.audited.exactLedger
  refine ⟨record, after, ⟨?_, fun hplain => ?_, hledger.nodup, fun key => ⟨fun hk => ?_, ?_⟩⟩, rfl⟩
  · rw [scaffold_eq_conclude (exists?_of_fits h.plain h.root_isPlain h.root_fits), hprogress]
    rfl
  · rw [report, check_notice_of_plain hplain]
  · obtain ⟨p, hp, hroot, rfl⟩ := hw.listed key hk
    have hthere := hledger.present p.text hk
    rw [hp.ofString_text] at hthere
    exact ⟨p, hroot, exists?_true hw.audited.plain hp hthere, rfl⟩
  · rintro ⟨p, hroot, hthere, rfl⟩
    have hnone := h.none_below (isAbove_of_mem_ancestors hroot).1
    exact (hledger.complete p hroot hnone hthere).resolve_right And.left

end IsFresh

/-- A fresh project is run for with success, unless the target holds what a notice takes for
markup. -/
theorem IsFresh.exists_ok (h : IsFresh b world) (opts : Options)
    (hplain : ∀ c ∈ b.site.root.text.toList, Markup.Tag.IsPlainChar c) :
    ∃ record after, Run.scaffold opts b Recipe.standard world = (.ok record, after) := by
  have hstart : Alike b.site b.site world.store world.store
      ⟨world.store, world.library, []⟩ ⟨world.store, world.library, []⟩ :=
    ⟨h.isClear, h.isClear, fun _ => rfl⟩
  obtain ⟨w, _, hrun, -, hend⟩ := hstart.runAll h.root_isPlain h.root_isPlain
    (defaults_areAkin rfl) (fun t ht => ht) fun t ht => ⟨h.fits t ht, h.fits t ht⟩
  obtain ⟨record, after, hbuilt, -⟩ := h.isBuilt opts hrun hend.left
  exact ⟨record, after, by rw [hbuilt.run, hbuilt.given hplain]⟩

/-- **Fresh projects are built.** For any two blueprints that differ at most in the target, each on
a disk where the target is free and the bundled templates are at hand, whatever is kept of them:
both runs come to their last notice, each lists exactly what stands below its root, and seen from
the roots the same stands everywhere. -/
theorem scaffold_fresh (opts opts' : Options) (h : IsFresh b world) (h' : IsFresh b' world')
    (hsame : b'.choices = { b.choices with target := b'.target }) :
    ∃ record after record' after', IsBuilt opts b world record after ∧
      IsBuilt opts' b' world' record' after' ∧
      ∀ rel, after'.store.at? (rel ++ b'.site.root.loc) =
        after.store.at? (rel ++ b.site.root.loc) := by
  have hstart : Alike b.site b'.site world.store world'.store
      ⟨world.store, world.library, []⟩ ⟨world'.store, world'.library, []⟩ :=
    { left := h.isClear
      right := h'.isClear
      view := fun rel => by
        have hnone := h.none_below (List.suffix_append rel b.site.root.loc)
        have hnone' := h'.none_below (List.suffix_append rel b'.site.root.loc)
        exact hnone'.trans hnone.symm }
  have hfits : ∀ t ∈ b.tasks, (b.site.locate t.path).Fits ∧ (b'.site.locate t.path).Fits :=
    fun t ht => ⟨h.fits t ht, h'.fits t (tasks_congr hsame ▸ ht)⟩
  obtain ⟨w, w', hrun, hrun', hend⟩ := hstart.runAll h.root_isPlain h'.root_isPlain
    (defaults_areAkin hsame) (fun t ht => ht) hfits
  rw [← tasks_congr hsame] at hrun'
  obtain ⟨record, after, hbuilt, hstore⟩ := h.isBuilt opts hrun hend.left
  obtain ⟨record', after', hbuilt', hstore'⟩ := h'.isBuilt opts' hrun' hend.right
  refine ⟨record, after, record', after', hbuilt, hbuilt', fun rel => ?_⟩
  rw [hstore, hstore']
  exact hend.view rel

def freeBlueprint : Blueprint := ⟨sampleChoices "/srv/new", by decide⟩

/-- The same for a target that a notice takes for a closing tag. -/
def taggedBlueprint : Blueprint := ⟨sampleChoices "/srv/[/]", by decide⟩

/-- A disk with the parents of both targets and the bundled templates. -/
def freeStore : Store := Bundled.install (sampleStore.insert ["[", "srv"] .directory)

def freeWorld : World engine := ⟨freeStore, .new none⟩

/-- The same disk with a library that has rendered a template. -/
def usedWorld : World engine :=
  ⟨freeStore, ((.new none : Library engine).render freeStore "server/app.j2" []).2⟩

theorem freeStore_checks : (∀ e ∈ freeStore.entries,
      e.2.isLink = false ∧ freeStore.isDirectoryAt e.1.tail = true) ∧
    ∀ b ∈ [freeBlueprint, taggedBlueprint], (freeStore.at? b.site.root.loc).isNone ∧
      freeStore.isDirectoryAt b.site.root.parent.loc = true ∧ ".." ∉ b.site.root.names ∧
      b.site.root.hasNul = false ∧ b.site.root.text.utf8ByteSize + 36 ≤ pathLimit ∧
      ∀ name ∈ b.site.root.names, name.utf8ByteSize ≤ nameLimit := by
  decide +kernel

theorem freeStore_isPlain : freeStore.IsPlain := isPlain_of_entries freeStore_checks.1

theorem isFresh_of_mem (hb : b ∈ [freeBlueprint, taggedBlueprint]) {lib : Library engine}
    (hlib : lib.HasBundled freeStore) : IsFresh b ⟨freeStore, lib⟩ := by
  obtain ⟨habsent, hparent, hinward, hnul, hroom, hnames⟩ := freeStore_checks.2 b hb
  exact ⟨freeStore_isPlain, hinward, Option.isNone_iff_eq_none.mp habsent,
    isDirectoryAt_iff.mp hparent, fits_of_room hinward ⟨hnul, by omega, hnames⟩ hroom, hlib⟩

theorem isFresh_of_root (h : b.site.root = freeBlueprint.site.root) : IsFresh b freeWorld := by
  have hlib : (.new none : Library engine).HasBundled freeStore :=
    hasBundled_install freeStore_isPlain
  obtain ⟨habsent, hparent, hinward, hnul, hroom, hnames⟩ :=
    freeStore_checks.2 freeBlueprint (by simp)
  rw [← h] at habsent hparent hinward hnul hroom hnames
  exact ⟨freeStore_isPlain, hinward, Option.isNone_iff_eq_none.mp habsent,
    isDirectoryAt_iff.mp hparent, fits_of_room hinward ⟨hnul, by omega, hnames⟩ hroom, hlib⟩

/-- Both projects are built, but the second result is kept back. -/
theorem scaffold_fresh_of_tagged :
    IsFresh freeBlueprint freeWorld ∧ IsFresh taggedBlueprint usedWorld ∧
      taggedBlueprint.choices = { freeBlueprint.choices with target := taggedBlueprint.target } ∧
      ∃ record after record' after',
        IsBuilt .default freeBlueprint freeWorld record after ∧
        IsBuilt .default taggedBlueprint usedWorld record' after' ∧
        (∀ rel, after'.store.at? (rel ++ taggedBlueprint.site.root.loc) =
          after.store.at? (rel ++ freeBlueprint.site.root.loc)) ∧
        Run.scaffold .default freeBlueprint Recipe.standard freeWorld = (.ok record, after) ∧
        ∃ why, Run.scaffold .default taggedBlueprint Recipe.standard usedWorld =
          (.error (.notice why), after') := by
  have hlib : (.new none : Library engine).HasBundled freeStore :=
    hasBundled_install freeStore_isPlain
  have hfree : IsFresh freeBlueprint freeWorld := isFresh_of_mem (by simp) hlib
  have hused : IsFresh taggedBlueprint usedWorld :=
    isFresh_of_mem (by simp) (hlib.render freeStore_isPlain.linkless _ _)
  have hsame : taggedBlueprint.choices =
      { freeBlueprint.choices with target := taggedBlueprint.target } := by decide
  obtain ⟨record, after, record', after', hbuilt, hbuilt', hview⟩ :=
    scaffold_fresh .default .default hfree hused hsame
  have hplain : ∀ c ∈ freeBlueprint.site.root.text.toList, Markup.Tag.IsPlainChar c :=
    Markup.Tag.isPlainChar_of_all (by decide)
  have hblemish :
      (Markup.check (Record.empty.notice taggedBlueprint.site.root)).toOption = none := by
    decide +kernel
  refine ⟨hfree, hused, hsame, record, after, record', after', hbuilt, hbuilt', hview, ?_, ?_⟩
  · rw [hbuilt.run, hbuilt.given hplain]
  · rw [check_notice_congr .empty record'] at hblemish
    rw [hbuilt'.run, report]
    cases hcheck : Markup.check (record'.notice taggedBlueprint.site.root) with
    | ok _ => rw [hcheck] at hblemish; cases hblemish
    | error why => exact ⟨why, rfl⟩

end Scaffold
