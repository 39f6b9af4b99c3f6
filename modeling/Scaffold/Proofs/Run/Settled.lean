import Scaffold.Proofs.Run.Destinations

/-!
# Settled tasks

A task is settled if what it is for stands in its place and is listed (`Task.Settled`). Tasks that
go through are all settled afterwards, if each is for a place of its own (`runAll_settles`), and
settled tasks that are done again go through, change nothing and list nothing new
(`runAll_of_settled`). No task writes a template, so the templates are the same both times; that
they also give the same texts is a matter of the engine (`Site.IsSteady`).
-/

namespace Scaffold

open Store Template
open Scaffold.Path (pathTo)

def Task.loc (site : Site) (t : Task) : Loc := (site.locate t.path).loc

def SparesTemplates (touched : Loc → Prop) : Prop :=
  ∀ name dir, touched (name :: dir) → ¬ IsTemplateName name

/-- What a project below a root may make of a disk: outside of the root it looks the same, but for
directories above it, and nothing disappeared, least of all a template. -/
structure Store.BuiltOn (root : Loc) (s t : Store) : Prop where
  plain : t.IsPlain
  keeps : s.Keeps t
  spares : s.Spares IsTemplateName t
  outside : ∀ l, ¬ root <:+ l → ¬ l <:+ root → t.at? l = s.at? l

variable {E : Template.Engine}

/-- What a command renders is the same whatever was rendered before, and on all disks that the
project may make of this one. -/
def Site.IsSteady (site : Site) (lib : Library E) (s : Store) : Command → Prop
  | .renderTemplate template _ data =>
    ∀ t t' tree state state', s.BuiltOn site.root.loc t → s.BuiltOn site.root.loc t' →
      lib.load t template = .ok tree →
      (E.render tree (data.getD site.defaults) (lib.sources t) state).1 =
        (E.render tree (data.getD site.defaults) (lib.sources t') state').1
  | _ => True

/-- `w'` is `w` after work on a site that touched only some places. -/
structure Workshop.Follows (site : Site) (touched : Loc → Prop) (w w' : Workshop E) : Prop where
  plain : w'.store.IsPlain
  keeps : w.store.Keeps w'.store
  view : ∀ l e, ¬ touched l → w.store.at? l = some e → w'.store.at? l = some e
  outside : ∀ l, ¬ site.root.loc <:+ l → ¬ l <:+ site.root.loc →
    w'.store.at? l = w.store.at? l
  root : w'.library.root = w.library.root
  current : w'.library.IsCurrent w'.store

variable {site : Site} {w w' w'' : Workshop E} {touched touched' : Loc → Prop} {c : Command}
  {t : Task} {ts : List Task} {path : String} {e : Entry} {created created' : List String}
  {root : Loc} {s s' s'' : Store}

theorem Store.BuiltOn.refl (hs : s.IsPlain) : s.BuiltOn root s :=
  ⟨hs, .refl s, .refl _ s, fun _ _ _ => rfl⟩

theorem Store.BuiltOn.trans (h : s.BuiltOn root s') (h' : s'.BuiltOn root s'') :
    s.BuiltOn root s'' where
  plain := h'.plain
  keeps := h.keeps.trans h'.keeps
  spares name dir content hn he := h'.spares name dir content hn (h.spares name dir content hn he)
  outside l hl hr := (h'.outside l hl hr).trans (h.outside l hl hr)

namespace Workshop.Follows

theorem refl (hs : w.store.IsPlain) (hc : w.library.IsCurrent w.store) : w.Follows site touched w :=
  ⟨hs, .refl _, fun _ _ _ h => h, fun _ _ _ => rfl, rfl, hc⟩

theorem trans (h : w.Follows site touched w') (h' : w'.Follows site touched w'') :
    w.Follows site touched w'' where
  plain := h'.plain
  keeps := h.keeps.trans h'.keeps
  view l e hl he := h'.view l e hl (h.view l e hl he)
  outside l hl hr := (h'.outside l hl hr).trans (h.outside l hl hr)
  root := h'.root.trans h.root
  current := h'.current

theorem mono (h : w.Follows site touched w') (ht : ∀ l, touched l → touched' l) :
    w.Follows site touched' w' :=
  { h with view := fun l e hl he => h.view l e (fun hm => hl (ht l hm)) he }

theorem builtOn (h : w.Follows site touched w') (ht : SparesTemplates touched) :
    w.store.BuiltOn site.root.loc w'.store where
  plain := h.plain
  keeps := h.keeps
  spares name dir _ hn he := h.view _ _ (fun hm => ht name dir hm hn) he
  outside := h.outside

theorem isSteady (h : w.Follows site touched w') (ht : SparesTemplates touched)
    (hc : site.IsSteady w.library w.store c) : site.IsSteady w'.library w'.store c := by
  have hbuilt := h.builtOn ht
  cases c with
  | renderTemplate template p data =>
    intro u u' tree state state' hu hu' hl
    rw [Library.load_of_root h.root] at hl
    rw [Library.sources_of_root h.root, Library.sources_of_root h.root]
    exact hc u u' tree state state' (hbuilt.trans hu) (hbuilt.trans hu') hl
  | _ => trivial

/-- What a command is to put somewhere stays the same while the templates do. -/
theorem order? {x : Order} (h : w.Follows site touched w') (ht : SparesTemplates touched)
    (hs : w.store.IsPlain) (hcur : w.library.IsCurrent w.store) (hc : c.ReadsTemplates)
    (hsteady : site.IsSteady w.library w.store c) (ho : site.order? w c = some (path, x)) :
    site.order? w' c = some (path, x) := by
  cases c with
  | writeFile | createDirectory | writeJson | pathExists => exact ho
  | copyStatic source p => exact hc.elim
  | renderTemplate template p data =>
    have hbuilt := h.builtOn ht
    simp only [Site.order?] at ho ⊢
    rw [hcur.render_fst hc] at ho
    rw [h.current.render_fst hc]
    cases hl : w.library.load w.store template with
    | error f => rw [hl] at ho; cases ho
    | ok tree =>
      have hload : w'.library.load w'.store template = .ok tree := by
        rw [Library.load_of_root h.root]
        exact Library.load_of_spares hbuilt.spares h.keeps hs.linkless hc hl
      rw [hl] at ho
      rw [hload, ← ho]
      show ((w'.library.renderTree w'.store tree _).1.toOption.map _) =
        ((w.library.renderTree w.store tree _).1.toOption.map _)
      rw [Library.renderTree_fst, Library.renderTree_fst, Library.sources_of_root h.root,
        hsteady w'.store w.store tree w'.library.state w.library.state hbuilt (.refl hs)
          (Library.load_of_spares hbuilt.spares h.keeps hs.linkless hc hl)]

theorem demand? (h : w.Follows site touched w') (ht : SparesTemplates touched)
    (hs : w.store.IsPlain) (hcur : w.library.IsCurrent w.store) (hc : c.ReadsTemplates)
    (hsteady : site.IsSteady w.library w.store c) (hd : site.demand? w c = some (path, e)) :
    site.demand? w' c = some (path, e) := by
  obtain ⟨x, ho, he⟩ := demand?_eq_some_iff.mp hd
  exact demand?_eq_some_iff.mpr ⟨x, h.order? ht hs hcur hc hsteady ho, he⟩

end Workshop.Follows

/-! ## One command -/

theorem libraryAfter_root (site : Site) (w : Workshop E) (c : Command) :
    (site.libraryAfter w c).root = w.library.root := by
  cases c with
  | renderTemplate template path data => exact w.library.render_root _ _ _
  | _ => rfl

theorem libraryAfter_current (hcur : w.library.IsCurrent w.store) :
    (site.libraryAfter w c).IsCurrent w.store := by
  cases c with
  | renderTemplate template path data => exact hcur.render_snd _ _
  | _ => exact hcur

/-- What a task is for stands in its place, as it would be made now, and is listed. What stands
where an optional task is for may be anything. -/
structure Task.Settled (site : Site) (w : Workshop E) (created : List String) (t : Task) :
    Prop where
  fits : (site.locate t.path).Fits
  there : (w.store.at? (t.loc site)).isSome
  done : t.optional = false → ∃ e, site.demand? w t.command = some (t.path, e) ∧
    w.store.at? (t.loc site) = some e ∧ (site.locate t.path).text ∈ created

/-- A task that lies on the site, reads only templates and writes none. -/
structure Task.IsTidy (site : Site) (t : Task) : Prop where
  inner : IsInner t.path
  reads : t.command.ReadsTemplates
  proper : ∃ name dir, t.loc site = name :: dir ∧ ¬ IsTemplateName name

theorem Task.IsTidy.spares (h : t.IsTidy site) : SparesTemplates (· = t.loc site) := by
  obtain ⟨name, dir, hloc, hname⟩ := h.proper
  rintro m d hm
  cases hm.trans hloc
  exact hname

section Step

variable (hroot : site.root.IsPlain) (ht : t.IsTidy site) (hs : w.store.IsPlain)
  (hcur : w.library.IsCurrent w.store)

include hroot ht hs hcur

theorem perform_follows {a : Answer} (h : site.perform w t.command = (.ok a, w')) :
    w.Follows site (· = t.loc site) w' := by
  obtain ⟨e, hd⟩ := demand?_of_ok (by rw [h]) t.aimed
  have hplaced := perform_placed hroot ht.inner hs hd h
  have hlibrary : w'.library = site.libraryAfter w t.command := by
    have hnotes := (perform_notes hd).library
    rwa [h] at hnotes
  have hkeeps : w.store.Keeps w'.store := by
    have hextends := (perform_extends site w t.command).store
    rwa [h] at hextends
  have hview : ∀ l e, l ≠ t.loc site → w.store.at? l = some e → w'.store.at? l = some e := by
    intro l e hl he
    rcases hplaced.view l hl with hv | ⟨-, hn, -⟩
    · rw [hv, he]
    · rw [he] at hn; cases hn
  have hspares : w.store.Spares IsTemplateName w'.store := fun name dir content hn he =>
    hview _ _ (fun hm => ht.spares name dir hm hn) he
  have hbelow : site.root.loc <:+ (site.locate t.path).loc := Path.root_suffix_child ht.inner
  exact
    { plain := hplaced.plain
      keeps := hkeeps
      view := hview
      outside := fun l hl hr => by
        have hne : l ≠ (site.locate t.path).loc := by
          rintro rfl
          exact hl hbelow
        refine (hplaced.view l hne).resolve_right fun ⟨hway, _⟩ => ?_
        exact (List.suffix_or_suffix_of_suffix hway hbelow).elim hr hl
      root := by rw [hlibrary, libraryAfter_root]
      current := by
        rw [hlibrary]
        exact (libraryAfter_current hcur).of_spares hspares hkeeps hs.linkless }

theorem task_follows (h : t.run site w = (.ok (), w')) : w.Follows site (· = t.loc site) w' := by
  unfold Task.run at h
  split at h
  · split at h
    · cases h
    · cases h
      exact .refl hs hcur
    · obtain ⟨a, ha⟩ := runCommand_ok.mp h
      exact perform_follows hroot ht hs hcur ha
  · obtain ⟨a, ha⟩ := runCommand_ok.mp h
    exact perform_follows hroot ht hs hcur ha

variable (hsteady : site.IsSteady w.library w.store t.command)

include hsteady

theorem perform_settles {a : Answer} (h : site.perform w t.command = (.ok a, w')) :
    t.Settled site w' w'.ledger := by
  obtain ⟨e, hd⟩ := demand?_of_ok (by rw [h]) t.aimed
  have hplaced := perform_placed hroot ht.inner hs hd h
  have hfollows := perform_follows hroot ht hs hcur h
  exact ⟨hplaced.fits, by rw [Task.loc, hplaced.here]; rfl, fun _ =>
    ⟨e, hfollows.demand? ht.spares hs hcur ht.reads hsteady hd, hplaced.here,
      perform_recorded hd h⟩⟩

theorem task_settles (h : t.run site w = (.ok (), w')) : t.Settled site w' w'.ledger := by
  have hp : (site.locate t.path).IsPlain := Path.child_isPlain hroot ht.inner
  unfold Task.run at h
  split at h
  · next hoptional =>
    split at h
    · cases h
    · next hthere =>
      cases h
      refine ⟨fits_of_exists? hs hp hthere, exists?_true hs hp hthere, fun hn => ?_⟩
      rw [hoptional] at hn
      cases hn
    · obtain ⟨a, ha⟩ := runCommand_ok.mp h
      exact perform_settles hroot ht hs hcur hsteady ha
  · obtain ⟨a, ha⟩ := runCommand_ok.mp h
    exact perform_settles hroot ht hs hcur hsteady ha

end Step

/-- Tidy tasks, each for a place of its own. -/
structure AreTidy (site : Site) (ts : List Task) : Prop where
  tidy : ∀ t ∈ ts, t.IsTidy site
  nodup : (ts.map (Task.loc site)).Nodup

theorem AreTidy.tail (h : AreTidy site (t :: ts)) : AreTidy site ts where
  tidy u hu := h.tidy u (List.mem_cons_of_mem _ hu)
  nodup := (List.nodup_cons.mp h.nodup).2

theorem AreTidy.spares (h : AreTidy site ts) :
    SparesTemplates fun l => ∃ t ∈ ts, l = t.loc site := by
  rintro name dir ⟨t, ht, hl⟩
  exact (h.tidy t ht).spares name dir hl

theorem task_loc {site : Site} {t : Task} (h : IsInner t.path) :
    t.loc site = (Path.ofString t.path).names.reverse ++ site.root.loc := by
  rw [Task.loc, Site.locate, Path.child_of_isInner h]
  simp [Path.loc]

theorem tasks_areTidy (b : Blueprint) (site : Site) : AreTidy site b.tasks where
  tidy t ht := by
    have hd := destination_of_mem ht
    refine ⟨hd.inner, readsTemplates_of_mem ht, ?_⟩
    obtain ⟨name, hlast, -⟩ := Option.map_eq_some_iff.mp hd.last
    obtain ⟨names, hnames⟩ := List.getLast?_eq_some_iff.mp hlast
    refine ⟨name, names.reverse ++ site.root.loc, ?_, (hd.names name (by simp [hnames])).2⟩
    rw [task_loc hd.inner, hnames]
    simp
  nodup := by
    have hnames := tasks_nodup b
    rw [List.Nodup, List.pairwise_map] at hnames ⊢
    refine hnames.imp_of_mem fun ht hu hne hloc => hne ?_
    rw [task_loc (destination_of_mem ht).inner, task_loc (destination_of_mem hu).inner,
      List.append_left_inj, List.reverse_inj] at hloc
    exact hloc

/-- A settled task stays settled while its place is not touched. -/
theorem Task.Settled.follows (h : t.Settled site w created) (hw : w.Follows site touched w')
    (htouched : SparesTemplates touched) (hs : w.store.IsPlain)
    (hcur : w.library.IsCurrent w.store) (ht : t.command.ReadsTemplates)
    (hsteady : site.IsSteady w.library w.store t.command)
    (hloc : ¬ touched (t.loc site)) (hcreated : ∀ key ∈ created, key ∈ created') :
    t.Settled site w' created' where
  fits := h.fits
  there := hw.keeps.isSome h.there
  done hn := by
    obtain ⟨e, hd, he, hkey⟩ := h.done hn
    exact ⟨e, hw.demand? htouched hs hcur ht hsteady hd, hw.view _ _ hloc he, hcreated _ hkey⟩

theorem task_run_ledger (site : Site) (t : Task) (w : Workshop E) :
    ∀ key ∈ w.ledger, key ∈ (t.run site w).2.ledger := by
  have hcommand : ∀ key ∈ w.ledger, key ∈ (t.runCommand site w).2.ledger := fun key hk =>
    (perform_extends site w t.command).ledger.subset hk
  intro key hk
  unfold Task.run
  split
  · split
    · exact hk
    · exact hk
    · exact hcommand key hk
  · exact hcommand key hk

theorem runAll_ledger (site : Site) (ts : List Task) (w : Workshop E) :
    ∀ key ∈ w.ledger, key ∈ (site.runAll ts w).2.ledger := by
  induction ts generalizing w with
  | nil => exact fun _ hk => hk
  | cons t ts ih =>
    intro key hk
    have hstep := task_run_ledger site t w key hk
    unfold Site.runAll
    split
    · next w₁ hw => rw [hw] at hstep; exact ih w₁ key hstep
    · next hw => rw [hw] at hstep; exact hstep

theorem runAll_follows (hroot : site.root.IsPlain) (hts : ∀ t ∈ ts, t.IsTidy site)
    (hs : w.store.IsPlain) (hcur : w.library.IsCurrent w.store)
    (h : site.runAll ts w = (.ok (), w')) :
    w.Follows site (fun l => ∃ t ∈ ts, l = t.loc site) w' := by
  induction ts generalizing w with
  | nil => cases h; exact .refl hs hcur
  | cons t ts ih =>
    unfold Site.runAll at h
    split at h
    · next w₁ hw =>
      obtain ⟨htidy, htail⟩ := List.forall_mem_cons.mp hts
      have hfirst := task_follows hroot htidy hs hcur hw
      have hrest := ih htail hfirst.plain hfirst.current h
      refine (hfirst.mono ?_).trans (hrest.mono ?_)
      · rintro l rfl
        exact ⟨t, List.mem_cons_self, rfl⟩
      · rintro l ⟨u, hu, hl⟩
        exact ⟨u, List.mem_cons_of_mem _ hu, hl⟩
    · cases h

/-- **Tasks that go through are settled**, if what they render is steady. -/
theorem runAll_settles (hroot : site.root.IsPlain) (hts : AreTidy site ts)
    (hs : w.store.IsPlain) (hcur : w.library.IsCurrent w.store)
    (hsteady : ∀ t ∈ ts, site.IsSteady w.library w.store t.command)
    (h : site.runAll ts w = (.ok (), w')) : ∀ t ∈ ts, t.Settled site w' w'.ledger := by
  induction ts generalizing w with
  | nil => exact nofun
  | cons t ts ih =>
    unfold Site.runAll at h
    split at h
    · next w₁ hw =>
      have htidy := hts.tidy t List.mem_cons_self
      obtain ⟨hst, hstail⟩ := List.forall_mem_cons.mp hsteady
      have hfirst := task_follows hroot htidy hs hcur hw
      have hsettled := task_settles hroot htidy hs hcur hst hw
      have hrest := runAll_follows hroot hts.tail.tidy hfirst.plain hfirst.current h
      have hall := ih hts.tail hfirst.plain hfirst.current
        (fun u hu => hfirst.isSteady htidy.spares (hstail u hu)) h
      have hledger : ∀ key ∈ w₁.ledger, key ∈ w'.ledger := by
        have := runAll_ledger site ts w₁
        rwa [h] at this
      have hown : ¬ ∃ u ∈ ts, t.loc site = u.loc site := by
        rintro ⟨u, hu, hloc⟩
        exact (List.nodup_cons.mp hts.nodup).1 (List.mem_map.mpr ⟨u, hu, hloc.symm⟩)
      exact List.forall_mem_cons.mpr ⟨hsettled.follows hrest hts.tail.spares hfirst.plain
        hfirst.current htidy.reads (hfirst.isSteady htidy.spares hst) hown hledger, hall⟩
    · cases h

/-! ## Doing them again -/

/-- The disks look the same, and the libraries are current and have the same root. -/
structure Workshop.Agrees (w w' : Workshop E) : Prop where
  view : ∀ l, w'.store.at? l = w.store.at? l
  root : w'.library.root = w.library.root
  current : w'.library.IsCurrent w'.store

theorem IsPlain.of_view {s s' : Store} (hs : s.IsPlain) (h : ∀ l, s'.at? l = s.at? l) :
    s'.IsPlain where
  linkless l target := by rw [h]; exact hs.linkless l target
  closed name dir := by rw [h, h]; exact hs.closed name dir

theorem Workshop.Agrees.follows (h : w.Agrees w') (hs : w.store.IsPlain) :
    w.Follows site (fun _ => False) w' where
  plain := IsPlain.of_view hs h.view
  keeps l e he := by rw [h.view, he]; rfl
  view l e _ he := by rw [h.view, he]
  outside l _ _ := h.view l
  root := h.root
  current := h.current

/-- Putting the same entry where it stands changes nothing. -/
theorem view_of_replaced {s s' : Store} {p : Path} (hs : s.IsPlain) (hp : Placed p e s s')
    (he : s.at? p.loc = some e) (l : Loc) : s'.at? l = s.at? l := by
  by_cases hl : l = p.loc
  · rw [hl, hp.here, he]
  · refine (hp.view l hl).resolve_right fun ⟨hsuf, hn, _⟩ => ?_
    rw [hs.above (by rw [he]; rfl) hsuf hl] at hn
    cases hn

/-- Nothing is missing on the way to what is there, so nothing but its own path can be recorded. -/
theorem Site.IsOnWay.eq_of_isSome {s : Store} {p q : Path} (h : site.IsOnWay s p q)
    (hs : s.IsPlain) (hp : p.IsPlain) (hf : p.Fits) (hthere : (s.at? p.loc).isSome) : q = p := by
  rcases h with rfl | ⟨hq, -, hmissing⟩
  · rfl
  · obtain ⟨-, hsuf, hne⟩ := Path.mem_ancestors_iff_loc.mp hq
    have hex := exists?_of_fits hs (hp.of_mem_ancestors hq) (hf.of_mem_ancestors hp.anchored hq)
    rw [hs.above hthere hsuf hne] at hex
    cases hex.symm.trans hmissing

section Again

variable (hroot : site.root.IsPlain) (hs : w.store.IsPlain)
  (hcur : w.library.IsCurrent w.store) (ht : t.IsTidy site)
  (hsteady : site.IsSteady w.library w.store t.command) (h : t.Settled site w created)
  (hw : w.Agrees w')

include hroot hs hcur ht hsteady h hw

/-- A settled task that is done again goes through, changes nothing and lists nothing new. -/
theorem run_of_settled : ∃ w₁, t.run site w' = (.ok (), w₁) ∧ w.Agrees w₁ ∧
    ∀ key ∈ w₁.ledger, key ∈ w'.ledger ∨ key ∈ created := by
  have hfollows : w.Follows site (fun _ => False) w' := hw.follows hs
  have hs' := hfollows.plain
  have hp : (site.locate t.path).IsPlain := Path.child_isPlain hroot ht.inner
  have hthere : (w'.store.at? (t.loc site)).isSome := by rw [hw.view]; exact h.there
  unfold Task.run
  split
  · rw [exists?_of_fits hs' hp h.fits]
    have hthere' : (w'.store.at? (site.locate t.path).loc).isSome = true := hthere
    rw [hthere']
    exact ⟨w', rfl, hw, fun key hk => .inl hk⟩
  · next hoptional =>
    obtain ⟨e, hd, he, hkey⟩ := h.done (by simpa using hoptional)
    have he' : w'.store.at? (site.locate t.path).loc = some e := (hw.view _).trans he
    have hd' := hfollows.demand? (fun _ _ hm => hm.elim) hs hcur ht.reads hsteady hd
    obtain ⟨name, dir, hloc, -⟩ := ht.proper
    have hloc' : (site.locate t.path).loc = name :: dir := hloc
    have hdir : w'.store.at? dir = some .directory :=
      hs'.closed name dir (by rw [← hloc', he']; rfl)
    have hadmits : w'.store.Admits (name :: dir) e := by
      intro old ho
      rw [← hloc', he'] at ho
      cases ho
      rfl
    obtain ⟨a, w₁, hrun⟩ := perform_ok hroot ht.inner hs' hd' h.fits hloc' (hs'.isOpen hdir) hadmits
    have hplaced := perform_placed hroot ht.inner hs' hd' hrun
    have hview := view_of_replaced hs' hplaced he'
    have hnotes := perform_notes hd'
    rw [hrun] at hnotes
    have hlibrary : w₁.library = site.libraryAfter w' t.command := hnotes.library
    refine ⟨w₁, runCommand_ok.mpr ⟨a, hrun⟩, ⟨fun l => (hview l).trans (hw.view l), ?_, ?_⟩,
      fun key hk => ?_⟩
    · rw [hlibrary, libraryAfter_root, hw.root]
    · rw [hlibrary]
      refine (libraryAfter_current hw.current).of_spares ?_ ?_ hs'.linkless
      · intro m d content _ hm
        rw [hview, hm]
      · intro l old ho
        rw [hview, ho]
        rfl
    · rcases hnotes.ledger key hk with hold | ⟨q, hq, rfl⟩
      · exact .inl hold
      · rw [hq.eq_of_isSome hs' hp h.fits hthere]
        exact .inr hkey

end Again

/-- **Settled tasks need no work.** Done again they go through, change nothing and list nothing
new. -/
theorem runAll_of_settled (hroot : site.root.IsPlain) (hs : w.store.IsPlain)
    (hcur : w.library.IsCurrent w.store) (hts : ∀ t ∈ ts, t.IsTidy site ∧
      site.IsSteady w.library w.store t.command ∧ t.Settled site w created)
    (hw : w.Agrees w') : ∃ w₁, site.runAll ts w' = (.ok (), w₁) ∧ w.Agrees w₁ ∧
      ∀ key ∈ w₁.ledger, key ∈ w'.ledger ∨ key ∈ created := by
  induction ts generalizing w' with
  | nil => exact ⟨w', rfl, hw, fun key hk => .inl hk⟩
  | cons t ts ih =>
    obtain ⟨ht, hsteady, hsettled⟩ := hts t List.mem_cons_self
    obtain ⟨w₁, hrun, hw₁, hnew⟩ := run_of_settled hroot hs hcur ht hsteady hsettled hw
    obtain ⟨w₂, hrest, hw₂, hnew'⟩ := ih (fun u hu => hts u (List.mem_cons_of_mem _ hu)) hw₁
    refine ⟨w₂, by rw [Site.runAll, hrun]; exact hrest, hw₂, fun key hk => ?_⟩
    exact (hnew' key hk).elim (hnew key) .inr

end Scaffold
