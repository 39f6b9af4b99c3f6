import Scaffold.Proofs.Run.Frame

/-!
# Ledgers undo

If nothing that recipes ask for was there before, the ledger of a run is a complete undo log
(`undo_restores`) but for stray files, which were opened in vain and are in no ledger. Places are
swept from the newest to the oldest, so what lies in a new directory goes before it
(`Accounted.precedes`), and the directory goes unless a stray file is left below it
(`Accounted.sweptOut_or_stray`). Only the root may be listed after what lies in it; it goes at the
end if the run began without it.
-/

namespace Scaffold

open Store
open Run (World)

/-- A place is as before, or it is a stray empty file, or a directory above one of the places that
keep what is above them. -/
def AsBefore (stray keeps : Loc → Prop) (s₀ t : Store) (loc : Loc) : Prop :=
  t.at? loc = s₀.at? loc ∨ s₀.at? loc = none ∧
    ((stray loc ∧ t.at? loc = some (.file .empty)) ∨
      t.at? loc = some .directory ∧ ∃ l, keeps l ∧ loc <:+ l ∧ loc ≠ l)

variable {E : Template.Engine} {b : Blueprint} {recipes : List Recipe} {world : World E}
  {root : Path} {s₀ s t : Store} {asked blank stray keeps : Loc → Prop} {locs : List Loc}
  {loc dir : Loc} {name : String} {e : Entry} {existed : Bool} {created removed : List String}

theorem AsBefore.mono {stray' keeps' : Loc → Prop} (h : AsBefore stray keeps s₀ t loc)
    (hs : ∀ l, stray l → stray' l) (hk : ∀ l, keeps l → keeps' l) :
    AsBefore stray' keeps' s₀ t loc := by
  refine h.imp_right fun ⟨hn, hleft⟩ => ⟨hn, hleft.imp (fun ⟨h, hf⟩ => ⟨hs loc h, hf⟩) ?_⟩
  rintro ⟨hd, l, hl, hrest⟩
  exact ⟨hd, l, hk l hl, hrest⟩

theorem AsBefore.eq (h : AsBefore stray keeps s₀ t loc) (hs : ∀ l, ¬ stray l)
    (hk : ∀ l, ¬ keeps l) : t.at? loc = s₀.at? loc :=
  h.resolve_right fun ⟨_, hleft⟩ =>
    hleft.elim (fun ⟨hl, _⟩ => hs loc hl) fun ⟨_, l, hl, _⟩ => hk l hl

section New

variable (h : Accounted root s₀ asked blank s locs)
  (hnew : ∀ loc, asked loc → s₀.at? loc = none)

include h hnew

theorem Accounted.new_of_listed (hin : loc ∈ locs) : s₀.at? loc = none := by
  obtain ⟨-, -, -, -, hor⟩ := h.recorded loc hin
  exact hor.elim (hnew loc) id

theorem Accounted.at?_of_some (he : s₀.at? loc = some e) : s.at? loc = some e := by
  refine h.unasked he fun ha => ?_
  rw [hnew loc ha] at he; cases he

theorem Accounted.nil_not_listed : [] ∉ locs := by
  intro hin
  have hn := h.new_of_listed hnew hin
  rw [at?_root] at hn; cases hn

omit hnew in
/-- What lies in a new directory below the root comes before it when places are swept. -/
theorem Accounted.precedes (hin : name :: dir ∈ locs) (hb : root.IsAbove dir)
    (hn : s₀.at? dir = none) : Precedes locs.reverse (name :: dir) dir := by
  obtain ⟨older, newer, rfl⟩ := List.append_of_mem hin
  have hdir : dir ∈ older := h.ordered older (name :: dir) newer rfl dir hb
    (List.suffix_cons name dir) (by simp) hn
  have hsub : [dir, name :: dir].Sublist (older ++ (name :: dir) :: newer) :=
    (List.singleton_sublist.mpr hdir).append (List.singleton_sublist.mpr List.mem_cons_self)
  exact List.reverse_sublist.mpr hsub

/-- What is listed below the root is swept out, unless a file that is not listed lies below it. -/
theorem Accounted.sweptOut_or_stray (hs : s₀.IsPlain) (hin : loc ∈ locs) (hne : loc ≠ root.loc) :
    s.IsSweptOut locs.reverse loc ∨
      ∃ l, (blank l ∧ l ∉ locs) ∧ loc <:+ l ∧ loc ≠ l ∧ (s.at? l).isSome := by
  obtain ⟨-, -, hr, -⟩ := h.recorded loc hin
  have hn := h.new_of_listed hnew hin
  have hroot : loc ≠ [] := fun he => h.nil_not_listed hnew (he ▸ hin)
  by_cases hstray : ∃ l, (blank l ∧ l ∉ locs) ∧ loc <:+ l ∧ loc ≠ l ∧ (s.at? l).isSome
  · exact .inr hstray
  refine .inl ⟨hroot, List.mem_reverse.mpr hin, fun name dir hd hsome => ?_⟩
  -- all below `loc` is new, and since nothing is stray there it is listed
  have hbelow : ∀ l, loc <:+ l → root.IsAbove l ∧ s₀.at? l = none := by
    intro l hl
    refine ⟨⟨hr.trans hl, ?_⟩, ?_⟩
    · rintro rfl
      exact hne (List.IsSuffix.eq_of_length_le hr hl.length_le).symm
    · by_cases he : loc = l
      · exact he ▸ hn
      · exact hs.none_below (by simp [hn]) hl he
  have hup : loc <:+ name :: dir := hd.trans (List.suffix_cons name dir)
  have hlisted : name :: dir ∈ locs := by
    obtain ⟨hb, hnone⟩ := hbelow (name :: dir) hup
    refine Classical.byContradiction fun hnot => hstray ⟨name :: dir, ⟨?_, hnot⟩, hup, ?_, hsome⟩
    · exact ((h.listed hb hnone hsome).resolve_left hnot).1
    · rintro rfl
      exact not_cons_suffix hd
  obtain ⟨hb, hnone⟩ := hbelow dir hd
  exact h.precedes hlisted hb hnone

/-- Below the root a sweep over what is listed leaves nothing new but stray files and what is above
them. -/
theorem Accounted.asBefore_below (hs : s₀.IsPlain) (hb : root.IsAbove loc) :
    AsBefore (fun l => blank l ∧ l ∉ locs) (fun l => blank l ∧ l ∉ locs) s₀
      (s.sweep locs.reverse) loc := by
  have hunlisted : ∀ l, l ∉ locs → (s.sweep locs.reverse).at? l = s.at? l :=
    fun l hl => at?_sweep_of_not_mem fun hin => hl (List.mem_reverse.mp hin)
  by_cases hin : loc ∈ locs
  · have hn := h.new_of_listed hnew hin
    obtain ⟨-, -, -, hthere, -⟩ := h.recorded loc hin
    rcases h.sweptOut_or_stray hnew hs hin hb.2.symm with hout | ⟨l, hstray, hl, hne, hsome⟩
    · have hnodup : locs.reverse.Nodup := List.pairwise_reverse.mpr (h.nodup.imp Ne.symm)
      exact .inl (((at?_sweep_eq_none_iff h.plain hnodup hthere).mpr hout).trans hn.symm)
    · refine .inr ⟨hn, .inr ⟨?_, l, hstray, hl, hne⟩⟩
      exact (sweep_isPlain h.plain _).above (by rwa [hunlisted l hstray.2]) hl hne
  · rw [AsBefore, hunlisted loc hin]
    cases he : s₀.at? loc with
    | some e => exact .inl (h.at?_of_some hnew he)
    | none =>
      cases hl : s.at? loc with
      | none => exact .inl rfl
      | some e =>
        obtain ⟨hblank, hfile⟩ := (h.listed hb he (by simp [hl])).resolve_left hin
        exact .inr ⟨rfl, .inl ⟨⟨hblank, hin⟩, hl ▸ hfile⟩⟩

/-- Elsewhere there may also be directories above the root. -/
theorem Accounted.asBefore_swept (hs : s₀.IsPlain) (hne : loc ≠ root.loc) :
    AsBefore (fun l => blank l ∧ l ∉ locs) (fun l => l = root.loc ∨ blank l ∧ l ∉ locs) s₀
      (s.sweep locs.reverse) loc := by
  by_cases hr : root.loc <:+ loc
  · exact (h.asBefore_below hnew hs ⟨hr, hne.symm⟩).mono (fun _ => id) fun _ => .inr
  have hin : loc ∉ locs := fun hin => by
    obtain ⟨-, -, hsuf, -⟩ := h.recorded loc hin
    exact hr hsuf
  rw [AsBefore, at?_sweep_of_not_mem fun hrev => hin (List.mem_reverse.mp hrev)]
  cases he : s₀.at? loc with
  | some e => exact .inl (h.at?_of_some hnew he)
  | none =>
    cases hl : s.at? loc with
    | none => exact .inl rfl
    | some e =>
      rcases (h.fresh loc he (by simp [hl])).2 with hlisted | ⟨hsuf, hd⟩ | ⟨hblank, hfile⟩
      · exact absurd hlisted hin
      · exact .inr ⟨rfl, .inr ⟨hl ▸ hd, root.loc, .inl rfl, hsuf, hne⟩⟩
      · exact .inr ⟨rfl, .inl ⟨⟨hblank, hin⟩, hl ▸ hfile⟩⟩

/-- Nor is there anything new in the end at the root itself, unless what is left in it is stray or
above a stray file. -/
theorem Accounted.asBefore_root (hs : s₀.IsPlain) (he : s₀.at? root.loc = none)
    (hsome : ((s.sweep locs.reverse).at? root.loc).isSome) :
    AsBefore (fun l => blank l ∧ l ∉ locs) (fun l => blank l ∧ l ∉ locs) s₀
      ((s.sweep locs.reverse).loosen root.loc) root.loc := by
  have hplain : (s.sweep locs.reverse).IsPlain := sweep_isPlain h.plain _
  have hnil : root.loc ≠ [] := by
    intro hnil
    rw [hnil, at?_root] at he; cases he
  cases hloose : (s.sweep locs.reverse).isLoose root.loc with
  | true => exact .inl (by rw [at?_loosen_self hloose, he])
  | false =>
    rw [loosen_of_not_loose hloose]
    obtain ⟨name, hname⟩ := exists_below_of_not_loose hplain hloose hnil hsome
    have hb : root.IsAbove (name :: root.loc) := ⟨List.suffix_cons name root.loc, by simp⟩
    have hnone : s₀.at? (name :: root.loc) = none := hs.none_below (by simp [he]) hb.1 hb.2
    refine .inr ⟨he, .inr ⟨directory_of_not_loose hloose hsome, ?_⟩⟩
    rcases h.asBefore_below hnew hs hb with hsame | ⟨-, ⟨hstray, -⟩ | ⟨-, l, hl, hsuf, -⟩⟩
    · rw [hsame, hnone] at hname; cases hname
    · exact ⟨_, hstray, hb⟩
    · exact ⟨l, hl, hb.1.trans hsuf, fun he => not_cons_suffix (he ▸ hsuf)⟩

end New

theorem undoRun_missing_root {u : Store} (hu : Run.undo s created = (.ok removed, u))
    (hp : u.IsPlain) (hr : root.IsPlain) (hf : root.Fits) (hne : root.loc ≠ []) :
    (Run.undoRun s root false created).2 = u.loosen root.loc := by
  unfold Run.undoRun
  rw [hu]
  simp only [Bool.false_eq_true, if_false, removePath_of_fits hp hr hf fun h => hne h.1]

/-- A run that asked for new places only is undone but for stray files and what is above them. -/
theorem Accounted.asBefore_undoRun (h : Accounted root s₀ asked blank s locs)
    (hnew : ∀ loc, asked loc → s₀.at? loc = none) (hs : s₀.IsPlain) (hr : root.IsPlain)
    (hex : s₀.exists? root = .ok existed) (loc : Loc) :
    AsBefore (fun l => blank l ∧ l ∉ locs) (fun l => l = root.loc ∨ blank l ∧ l ∉ locs) s₀
      (Run.undoRun s root existed (locs.map (label root.anchor))).2 loc := by
  have hplain : (s.sweep locs.reverse).IsPlain := sweep_isPlain h.plain _
  have hstore := undoRun_store existed h.undo_store hplain hr
  by_cases hne : loc ≠ root.loc
  · have hview : (Run.undoRun s root existed (locs.map (label root.anchor))).2.at? loc =
        (s.sweep locs.reverse).at? loc := by
      rcases hstore with hst | ⟨-, -, -, hst⟩
      · rw [hst]
      · rw [hst, at?_erase_of_ne hne]
    rw [AsBefore, hview]
    exact h.asBefore_swept hnew hs hne
  obtain rfl : loc = root.loc := Decidable.not_not.mp hne
  cases he : s₀.at? root.loc with
  | some e =>
    have hroot : root.loc ∉ locs := fun hin => by
      rw [h.new_of_listed hnew hin] at he; cases he
    rw [AsBefore, h.at?_undoRun hs hr hex (by simp [he]),
      at?_sweep_of_not_mem fun hrev => hroot (List.mem_reverse.mp hrev), h.at?_of_some hnew he]
    exact .inl he.symm
  | none =>
    obtain rfl : existed = false := by simpa [he] using exists?_ok hs hr hex
    cases hl : (s.sweep locs.reverse).at? root.loc with
    | none =>
      refine .inl ?_
      rcases hstore with hst | ⟨-, -, hloose, -⟩
      · rw [hst, hl, he]
      · have hsome := isLoose_isSome hloose
        rw [hl] at hsome; cases hsome
    | some e =>
      have hsome : ((s.sweep locs.reverse).at? root.loc).isSome := by simp [hl]
      have hf : root.Fits := by
        simpa using (h.fresh root.loc he ((sweep_keeps s locs.reverse).isSome hsome)).1
      have hnil : root.loc ≠ [] := by
        intro hnil
        rw [hnil, at?_root] at he; cases he
      obtain ⟨removed, hundo⟩ := h.undo_ok (h.nil_not_listed hnew)
      rw [undoRun_missing_root hundo hplain hr hf hnil]
      exact (h.asBefore_root hnew hs he hsome).mono (fun _ => id) fun _ => .inr

/-! ## Runs -/

/-- A file that was opened in vain during a run and is in no ledger. -/
def Run.IsStray (b : Blueprint) (recipes : List Recipe) (world : World E) (loc : Loc) : Prop :=
  Run.IsBlank b recipes world loc ∧
    label b.site.root.anchor loc ∉ (Run.progress b recipes .empty world).record.created

/-- **Ledgers are complete undo logs.** In a store without links and below a root without `..`,
where recipes ask for nothing outside the root and for nothing that was there before: a run in which
a recipe fails and that is undone leaves the store as it was, but for directories above the root;
and undoing the record of a run that went through leaves everything below the root as it was. Only a
file that was opened in vain is left behind, empty, and what it lies in. -/
theorem undo_restores (opts : Options) (hs : world.store.IsPlain)
    (hroot : ".." ∉ b.site.root.names)
    (hin : ∀ path ∈ Run.requests b recipes world, IsInner path)
    (hnew : ∀ loc, Run.IsRequested b recipes world loc → world.store.at? loc = none) :
    ((Run.progress b recipes .empty world).failure?.isSome → opts.undoOnFailure = true →
      ∀ loc, AsBefore (Run.IsStray b recipes world)
        (fun l => l = b.site.root.loc ∨ Run.IsStray b recipes world l) world.store
        (Run.scaffold opts b recipes world).2.store loc) ∧
    (∀ record, (Run.scaffold opts b recipes world).1 = .ok record →
      ∃ removed t, Run.undo (Run.scaffold opts b recipes world).2.store record.created =
          (.ok removed, t) ∧
        ∀ loc, b.site.root.IsAbove loc → AsBefore (Run.IsStray b recipes world)
          (Run.IsStray b recipes world) world.store t loc) := by
  have hr := site_root_isPlain b hroot
  obtain ⟨locs, hcreated, hacc⟩ := progress_accounted hs hr hin
  have hstray : ∀ l, (Run.IsBlank b recipes world l ∧ l ∉ locs) →
      Run.IsStray b recipes world l := by
    rintro l ⟨⟨path, hpath, rfl⟩, hl⟩
    have hinner := hin path (Run.requests_of_blanks hpath)
    have ha : (b.site.locate path).anchor = b.site.root.anchor := Path.anchor_child hinner
    refine ⟨⟨path, hpath, rfl⟩, fun hkey => hl ?_⟩
    rw [hcreated, label_loc ha] at hkey
    exact hacc.mem_of_text (Path.child_isPlain hr hinner) ha hkey
  cases hex : world.store.exists? b.site.root with
  | error f =>
    rw [scaffold_early hex]
    exact ⟨fun _ _ loc => .inl rfl, fun record h => (nomatch h)⟩
  | ok existed =>
    rw [scaffold_eq_conclude hex]
    refine ⟨fun hfail hundo loc => ?_, fun record hok => ?_⟩
    · rw [conclude_undone hfail hundo, hcreated]
      exact (hacc.asBefore_undoRun hnew hs hr hex loc).mono hstray fun l => .imp_right (hstray l)
    · obtain ⟨rfl, hworld⟩ := conclude_ok hok
      obtain ⟨removed, hu⟩ := hacc.undo_ok (hacc.nil_not_listed hnew)
      refine ⟨removed, _, by rw [hworld, hcreated, hu], fun loc hb => ?_⟩
      exact (hacc.asBefore_below hnew hs hb).mono hstray hstray

def freshBlueprint : Blueprint := ⟨sampleChoices "/srv/new/app", by decide +kernel⟩

def freshCommands : List Command :=
  [.writeFile "src/db/index.js" "text", .createDirectory "docs", .writeFile "src/app.js" "text"]

def soundRecipe : Recipe := ⟨"Sound", fun _ => .ofCommands freshCommands⟩

/-- The last text cannot be written. -/
def strayRecipe : Recipe :=
  ⟨"Stray", fun _ => .ofCommands (freshCommands ++ [.writeFile "raw.js" loneSurrogate])⟩

theorem fresh_requests (recipes : List Recipe)
    (hreq : ∀ path ∈ Run.requests freshBlueprint recipes sampleWorld,
      path ∈ ["src/db/index.js", "docs", "src/app.js", "raw.js"]) :
    (∀ path ∈ Run.requests freshBlueprint recipes sampleWorld, IsInner path) ∧
      ∀ loc, Run.IsRequested freshBlueprint recipes sampleWorld loc →
        sampleWorld.store.at? loc = none := by
  have hinner : ∀ path ∈ ["src/db/index.js", "docs", "src/app.js", "raw.js"], IsInner path := by
    decide +kernel
  have habsent : ∀ path ∈ ["src/db/index.js", "docs", "src/app.js", "raw.js"],
      (sampleWorld.store.at? (freshBlueprint.site.locate path).loc).isNone := by decide +kernel
  refine ⟨fun path hin => hinner path (hreq path hin), ?_⟩
  rintro loc ⟨path, hin, rfl⟩
  exact Option.isNone_iff_eq_none.mp (habsent path (hreq path hin))

def freshLedger : List String :=
  ["/srv/new/app/src", "/srv/new/app/src/db", "/srv/new/app/src/db/index.js",
    "/srv/new/app/docs", "/srv/new/app/src/app.js"]

theorem undo_restores_of_fresh_root :
    let after := (Run.scaffold .default freshBlueprint [strayRecipe] sampleWorld).2.store
    (Run.progress freshBlueprint [strayRecipe] .empty sampleWorld).failure?.isSome ∧
      (∀ loc, AsBefore (Run.IsStray freshBlueprint [strayRecipe] sampleWorld)
        (fun l => l = freshBlueprint.site.root.loc ∨
          Run.IsStray freshBlueprint [strayRecipe] sampleWorld l) sampleWorld.store after loc) ∧
      after.at? ["raw.js", "app", "new", "srv"] = some (.file .empty) ∧
      (Run.scaffold .default freshBlueprint [soundRecipe] sampleWorld).1 =
        .ok ⟨freshLedger, [("Sound", freshLedger)]⟩ ∧
      ∃ removed t, Run.undo (Run.scaffold .default freshBlueprint [soundRecipe]
          sampleWorld).2.store freshLedger = (.ok removed, t) ∧
        ∀ loc, freshBlueprint.site.root.IsAbove loc → t.at? loc = sampleWorld.store.at? loc := by
  intro after
  have hroot : ".." ∉ freshBlueprint.site.root.names := by decide +kernel
  have hplain : sampleWorld.store.IsPlain := sampleStore_isPlain
  obtain ⟨hin, hnew⟩ := fresh_requests [strayRecipe] (by decide +kernel)
  obtain ⟨hin', hnew'⟩ := fresh_requests [soundRecipe] (by decide +kernel)
  have hfails : (Run.progress freshBlueprint [strayRecipe] .empty sampleWorld).failure?.isSome := by
    decide +kernel
  have hgoing : (Run.scaffold .default freshBlueprint [soundRecipe] sampleWorld).1 =
      .ok ⟨freshLedger, [("Sound", freshLedger)]⟩ := by decide +kernel
  have hrestored := (undo_restores .default hplain hroot hin hnew).1 hfails rfl
  refine ⟨hfails, hrestored, ?_, hgoing, ?_⟩
  · have hfile : (after.at? ["raw.js", "app", "new", "srv"]).any Entry.isFile = true := by
      decide +kernel
    rcases hrestored ["raw.js", "app", "new", "srv"] with hsame | ⟨-, ⟨-, hempty⟩ | ⟨hd, -⟩⟩
    · have hnone : (sampleWorld.store.at? ["raw.js", "app", "new", "srv"]).isNone := by
        decide +kernel
      rw [hsame, Option.isNone_iff_eq_none.mp hnone] at hfile
      cases hfile
    · exact hempty
    · rw [hd] at hfile
      cases hfile
  · obtain ⟨removed, t, hundo, hbelow⟩ :=
      (undo_restores .default hplain hroot hin' hnew').2 _ hgoing
    have hnone : ∀ loc, ¬ Run.IsStray freshBlueprint [soundRecipe] sampleWorld loc := by
      have hblanks : Run.blanks freshBlueprint [soundRecipe] sampleWorld = [] := by decide +kernel
      rintro loc ⟨⟨path, hpath, -⟩, -⟩
      rw [hblanks] at hpath
      cases hpath
    exact ⟨removed, t, hundo, fun loc hb => (hbelow loc hb).eq hnone hnone⟩

end Scaffold
