import Scaffold.Proofs.Blueprint.Record
import Scaffold.Proofs.Run.Progress
import Scaffold.Proofs.Store.Sweep

/-!
# Undoing a run

`doomed` lists the paths that undoing a run removes; undoing comes to clearing the store of them
(`undoRun_ok_iff`). In a plain store the ledger's part of it is a sweep over the listed places, the
newest first (`Accounted.undo_store`); after it only the root can still go (`undoRun_store`).
-/

namespace Scaffold

open Store
open Scaffold.Path (pathTo)
open Run (World)

/-- The paths that undoing a run removes, in their order. -/
def doomed (root : Path) (rootExisted : Bool) (created : List String) : List Path :=
  created.reverse.map Path.ofString ++ if rootExisted then [] else [root]

variable {E : Template.Engine} {opts : Options} {b : Blueprint} {recipes : List Recipe}
  {world : World E} {root : Path} {s₀ s t u : Store} {asked blank : Loc → Prop} {locs : List Loc}
  {loc : Loc} {keys created removed : List String} {existed : Bool} {f : Fault}

theorem removeAll_ok_iff : (∃ removed, Run.removeAll s keys = (.ok removed, t)) ↔
    s.clear (keys.map Path.ofString) = .ok t := by
  induction keys generalizing s with
  | nil => simp [Run.removeAll, clear]
  | cons key keys ih =>
    simp only [Run.removeAll, List.map_cons, clear]
    cases s.removePath (Path.ofString key) with
    | error f => simp
    | ok r =>
      obtain ⟨b, u⟩ := r
      rw [← ih]
      cases h : Run.removeAll u keys with
      | mk others v =>
        simp only [h]
        cases others with
        | ok removed => simp [Except.map]
        | error f => simp [Except.map]

theorem undoRun_ok_iff : Run.undoRun s root existed created = (.ok (), t) ↔
    s.clear (doomed root existed created) = .ok t := by
  have hiff := @removeAll_ok_iff s
  unfold Run.undoRun Run.undo doomed
  rw [clear_append]
  cases hr : Run.removeAll s created.reverse with
  | mk result u =>
    cases result with
    | ok removed =>
      have hclear := hiff.mp ⟨removed, hr⟩
      rw [hclear]
      cases existed with
      | true => simp [clear]
      | false =>
        simp only [Bool.false_eq_true, if_false, clear]
        cases u.removePath root with
        | error f => simp
        | ok r => simp
    | error f =>
      have hne : ∀ v, s.clear (created.reverse.map Path.ofString) ≠ .ok v := by
        intro v hv
        obtain ⟨removed, h⟩ := hiff.mpr hv
        rw [hr] at h; cases h
      cases hc : s.clear (created.reverse.map Path.ofString) with
      | error g => simp
      | ok v => exact absurd hc (hne v)

/-! ## Undoing in a plain store -/

/-- Removing plain paths in a row is a sweep over their places. It is refused only for the root of a
disk with nothing on it. -/
theorem removeAll_of_fits {anchor : Anchor} (hs : s.IsPlain)
    (h : ∀ loc ∈ locs, (pathTo anchor loc).IsPlain ∧ (pathTo anchor loc).Fits) :
    (Run.removeAll s (locs.map (label anchor))).2 = s.sweep locs ∧
      ([] ∉ locs → ∃ removed, (Run.removeAll s (locs.map (label anchor))).1 = .ok removed) := by
  induction locs generalizing s with
  | nil => exact ⟨rfl, fun _ => ⟨[], rfl⟩⟩
  | cons loc locs ih =>
    obtain ⟨⟨hp, hf⟩, hrest⟩ := List.forall_mem_cons.mp h
    have hread : Path.ofString (label anchor loc) = pathTo anchor loc := hp.ofString_text
    simp only [List.map_cons, Run.removeAll, hread]
    by_cases hroot : loc = [] ∧ s.isBare [] = true
    · -- the root stays, and there is nothing else to sweep
      obtain ⟨rfl, hbare⟩ := hroot
      have hl : s.look .itself (pathTo anchor []) = .ok (some ([], .directory)) := by
        rw [look, probe_of_fits hs hp hf]; rfl
      rw [removePath_of_directory hl, if_pos ⟨rfl, hbare⟩, sweep_of_bare hs hbare]
      exact ⟨rfl, fun hno => absurd List.mem_cons_self hno⟩
    · have hremove := removePath_of_fits hs hp hf (by rwa [Path.loc_pathTo])
      rw [Path.loc_pathTo] at hremove
      obtain ⟨hstore, hok⟩ := ih (loosen_isPlain hs loc) hrest
      simp only [hremove]
      refine ⟨hstore, fun hno => ?_⟩
      obtain ⟨removed, hremoved⟩ := hok fun hin => hno (List.mem_cons_of_mem _ hin)
      exact ⟨_, by rw [hremoved]; rfl⟩

/-- Undoing an account sweeps over the listed places. -/
theorem Accounted.undo_store (h : Accounted root s₀ asked blank s locs) :
    (Run.undo s (locs.map (label root.anchor))).2 = s.sweep locs.reverse := by
  rw [Run.undo, ← List.map_reverse]
  refine (removeAll_of_fits h.plain fun loc hin => ?_).1
  obtain ⟨hp, hf, -⟩ := h.recorded loc (List.mem_reverse.mp hin)
  exact ⟨hp, hf⟩

theorem Accounted.undo_ok (h : Accounted root s₀ asked blank s locs) (hroot : [] ∉ locs) :
    ∃ removed, Run.undo s (locs.map (label root.anchor)) = (.ok removed, s.sweep locs.reverse) := by
  have hall : ∀ loc ∈ locs.reverse, (pathTo root.anchor loc).IsPlain ∧
      (pathTo root.anchor loc).Fits := fun loc hin => by
    obtain ⟨hp, hf, -⟩ := h.recorded loc (List.mem_reverse.mp hin)
    exact ⟨hp, hf⟩
  obtain ⟨hstore, hok⟩ := removeAll_of_fits h.plain hall
  obtain ⟨removed, hremoved⟩ := hok (by simpa using hroot)
  refine ⟨removed, ?_⟩
  rw [Run.undo, ← List.map_reverse]
  exact Prod.ext hremoved hstore

/-- After the ledger only the root can go, and only if the run began without it. -/
theorem undoRun_store (existed : Bool) (hu : (Run.undo s created).2 = u) (hp : u.IsPlain)
    (hr : root.IsPlain) : (Run.undoRun s root existed created).2 = u ∨
      (existed = false ∧ root.hasNul = false ∧ u.isLoose root.loc = true ∧
        (Run.undoRun s root existed created).2 = u.erase root.loc) := by
  unfold Run.undoRun
  cases hundo : Run.undo s created with
  | mk result v =>
    rw [hundo] at hu
    subst hu
    cases result with
    | error f => exact .inl rfl
    | ok removed =>
      cases existed with
      | true => exact .inl rfl
      | false =>
        simp only [Bool.false_eq_true, if_false]
        split
        · exact .inl rfl
        · next b v hv =>
          rcases removePath_plain hp hr hv with rfl | ⟨hnul, rfl, hloose⟩
          · exact .inl rfl
          · exact .inr ⟨trivial, hnul, hloose, rfl⟩

/-- What was there before is swept or stays; the root goes only if it was not there. -/
theorem Accounted.at?_undoRun (h : Accounted root s₀ asked blank s locs) (hs : s₀.IsPlain)
    (hr : root.IsPlain) (hex : s₀.exists? root = .ok existed) (hsome : (s₀.at? loc).isSome) :
    (Run.undoRun s root existed (locs.map (label root.anchor))).2.at? loc =
      (s.sweep locs.reverse).at? loc := by
  rcases undoRun_store existed h.undo_store (sweep_isPlain h.plain _) hr with
    hst | ⟨rfl, hnul, -, hst⟩
  · rw [hst]
  · have hne : loc ≠ root.loc := by
      rintro rfl
      rw [exists?_false hs hr hex hnul] at hsome; cases hsome
    rw [hst, at?_erase_of_ne hne]

theorem Accounted.undoRun_keeps (h : Accounted root s₀ asked blank s locs) (hr : root.IsPlain)
    (existed : Bool) :
    Keeps (Run.undoRun s root existed (locs.map (label root.anchor))).2 s := by
  rcases undoRun_store existed h.undo_store (sweep_isPlain h.plain _) hr with
    hst | ⟨-, -, hloose, hst⟩
  · rw [hst]
    exact sweep_keeps s _
  · rw [hst]
    exact (erase_keeps (isLoose_ne_nil hloose)).trans (sweep_keeps s _)

theorem anchor_target (b : Blueprint) : (Path.ofString b.target).anchor ≠ .relative := by
  have hs : startsAtRoot b.target = true := (Choices.broken?_eq_none_iff.mp b.accepted).2.2.2
  rw [startsAtRoot, decide_eq_true_iff] at hs
  exact fun he => Path.anchorOf_eq_relative_iff.mp he hs

theorem site_root_isPlain (b : Blueprint) (h : ".." ∉ b.site.root.names) :
    b.site.root.IsPlain :=
  Path.ofString_isPlain (anchor_target b) h

/-- What a run is accountable for: all that its recipes ask for is below the root. -/
theorem progress_accounted (hs : world.store.IsPlain) (hroot : b.site.root.IsPlain)
    (hin : ∀ path ∈ Run.requests b recipes world, IsInner path) :
    ∃ locs, (Run.progress b recipes .empty world).record.created =
        locs.map (label b.site.root.anchor) ∧
      Accounted b.site.root world.store (Run.IsRequested b recipes world)
        (Run.IsBlank b recipes world) (Run.progress b recipes .empty world).world.store locs := by
  have hstart : (workshop .empty world).Audited b.site.root world.store
      (Run.IsRequested b recipes world) (Run.IsBlank b recipes world) :=
    ⟨[], rfl, .start hs _ _ _⟩
  exact progress_audited hroot hstart (fun path hp => ⟨hin path hp, path, hp, rfl⟩)
    fun path hp => ⟨path, hp, rfl⟩

/-! ## Whole runs -/

theorem scaffold_early (h : world.store.exists? b.site.root = .error f) :
    Run.scaffold opts b recipes world = (.error (.early f), world) := by
  rw [Run.scaffold, h]

theorem scaffold_eq_conclude (h : world.store.exists? b.site.root = .ok existed) :
    Run.scaffold opts b recipes world =
      (Run.progress b recipes .empty world).conclude opts b.site.root existed := by
  rw [Run.scaffold, h]
  exact follow_eq_conclude opts b existed recipes .empty world

theorem conclude_undone {p : Progress E} (hf : p.failure?.isSome) (hu : opts.undoOnFailure = true) :
    (p.conclude opts root existed).2.store =
      (Run.undoRun p.world.store root existed p.record.created).2 := by
  obtain ⟨⟨name, fault⟩, hn⟩ := Option.isSome_iff_exists.mp hf
  simp only [Progress.conclude, hn, Run.fail, hu, if_true]
  split <;> next h => rw [h]

/-- A run keeps what its recipes left, or it is undone. -/
theorem conclude_store (opts : Options) (root : Path) (existed : Bool) (p : Progress E) :
    (p.conclude opts root existed).2.store = p.world.store ∨
    (p.conclude opts root existed).2.store =
      (Run.undoRun p.world.store root existed p.record.created).2 := by
  cases hn : p.failure? with
  | none => exact .inl (by simp only [Progress.conclude, hn])
  | some failed =>
    cases hu : opts.undoOnFailure with
    | true => exact .inr (conclude_undone (by simp [hn]) hu)
    | false => exact .inl (by simp [Progress.conclude, hn, Run.fail, hu])

/-- A notice that cannot be shown takes the place of a result. -/
theorem report_eq (notice : String) (result : Except Breakdown Record) :
    report notice result = result ∨ ∃ why, report notice result = .error (.notice why) := by
  unfold report
  split
  · exact .inl rfl
  · next why _ => exact .inr ⟨why, rfl⟩

theorem report_ok {notice : String} {record record' : Record}
    (h : report notice (.ok record) = .ok record') : record = record' := by
  rcases report_eq notice (.ok record) with he | ⟨why, he⟩
  · rw [he] at h
    exact Except.ok.inj h
  · rw [he] at h; cases h

theorem report_ok_ne_failed {notice : String} {record : Record} {f : Failure} :
    report notice (.ok record) ≠ .error (.failed f) := by
  intro h
  rcases report_eq notice (.ok record) with he | ⟨why, he⟩
  · rw [he] at h; cases h
  · rw [he] at h; cases h

theorem Failure.report_eq_failed {f g : Failure} (h : g.report = .error (.failed f)) : g = f := by
  unfold Failure.report at h
  rcases report_eq g.notice (.error (.failed g)) with he | ⟨why, he⟩
  · rw [he] at h
    exact Breakdown.failed.inj (Except.error.inj h)
  · rw [he] at h; cases h

theorem Failure.report_ne_ok (g : Failure) (record : Record) : g.report ≠ .ok record := by
  intro h
  unfold Failure.report at h
  rcases report_eq g.notice (.error (.failed g)) with he | ⟨why, he⟩
  · rw [he] at h; cases h
  · rw [he] at h; cases h

theorem fail_ne_ok (opts : Options) (root : Path) (existed : Bool) (name : String) (cause : Fault)
    (created : List String) (world : World E) (record : Record) :
    (Run.fail opts root existed name cause created world).1 ≠ .ok record := by
  unfold Run.fail
  split
  · split
    · exact fun h => (nomatch h)
    · dsimp only
      exact Failure.report_ne_ok _ record
  · dsimp only
    exact Failure.report_ne_ok _ record

/-- A result is the record of a run that went through, and nothing is undone. -/
theorem conclude_ok {p : Progress E} {record : Record}
    (h : (p.conclude opts root existed).1 = .ok record) :
    record = p.record ∧ (p.conclude opts root existed).2 = p.world := by
  unfold Progress.conclude at h ⊢
  cases hn : p.failure? with
  | none =>
    simp only [hn] at h
    exact ⟨(report_ok h).symm, rfl⟩
  | some failed =>
    simp only [hn] at h
    exact absurd h (fail_ne_ok opts root existed _ _ _ _ record)

theorem scaffold_ok_iff : Run.scaffold opts b recipes world = (.ok record, world') ↔
    (∃ existed, world.store.exists? b.site.root = .ok existed) ∧
      Run.progress b recipes .empty world = ⟨none, record, world'⟩ ∧
      Markup.check (record.notice b.site.root) = .ok () := by
  cases hex : world.store.exists? b.site.root with
  | error f => simp [scaffold_early hex]
  | ok existed =>
    rw [scaffold_eq_conclude hex]
    cases hp : Run.progress b recipes .empty world with
    | mk failure? rec w =>
      cases failure? with
      | some failed =>
        refine ⟨fun h => ?_, fun h => by simp at h⟩
        exact absurd (congrArg Prod.fst h) (fail_ne_ok opts b.site.root existed _ _ _ _ record)
      | none =>
        simp only [Progress.conclude, report]
        cases hcheck : Markup.check (rec.notice b.site.root) with
        | ok _ =>
          refine ⟨fun h => ?_, by rintro ⟨-, h, -⟩; cases h; rfl⟩
          obtain ⟨hrec, hw⟩ := Prod.mk.inj h
          cases hrec
          cases hw
          exact ⟨⟨existed, rfl⟩, rfl, hcheck⟩
        | error why =>
          refine ⟨fun h => (by simp at h), ?_⟩
          rintro ⟨-, h, hc⟩
          cases h
          rw [hcheck] at hc
          cases hc

/-- A failure tells what was created, and if it was undone the store is cleared of it. -/
theorem conclude_failed {p : Progress E} {f : Failure} (hundo : opts.undoOnFailure = true)
    (h : (p.conclude opts root existed).1 = .error (.failed f)) :
    p.failure?.isSome ∧ f.created = p.record.created ∧
      p.world.store.clear (doomed root existed f.created) =
        .ok (p.conclude opts root existed).2.store := by
  cases hn : p.failure? with
  | none =>
    simp only [Progress.conclude, hn] at h
    exact absurd h report_ok_ne_failed
  | some failed =>
    have hfails : p.failure?.isSome := by simp [hn]
    have hst : (p.conclude opts root existed).2.store =
      (Run.undoRun p.world.store root existed p.record.created).2 := conclude_undone hfails hundo
    simp only [Progress.conclude, hn, Run.fail, hundo, if_true] at h
    split at h
    · cases h
    · next t ht =>
      dsimp only at h
      have hf := Failure.report_eq_failed h
      rw [hst, ht, ← hf]
      exact ⟨rfl, rfl, undoRun_ok_iff.mp ht⟩

end Scaffold
