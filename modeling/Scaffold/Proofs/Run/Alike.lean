import Scaffold.Proofs.Run.Content

/-!
# Sites that look alike

A site is clear for a project if files stand on it just where names have a dot, and nothing but
directories on the way to it. On a clear site every task of a project goes through and leaves it
clear (`IsClear.command`). Two clear sites on which everything looks the same from their roots still
look alike after the tasks of a project (`Alike.runAll`).
-/

namespace Scaffold

open Store Template

/-- The shape of what stands under a name: a file if it has a dot, and a directory if not. -/
def shapeOf (name : String) : Entry := if isDotted name then .file .empty else .directory

/-- A site that nothing is in the way on, with the bundled templates at hand and a ledger that was
kept since `s₀` and names only places below the root. -/
structure Site.IsClear (site : Site) (s₀ : Store) (w : Workshop engine) : Prop where
  audited : w.Audited site.root s₀ (fun _ => True) fun _ => False
  bundled : w.library.HasBundled w.store
  way : IsOpen w.store site.root.loc
  shaped : ∀ name dir e, site.root.loc <:+ dir → w.store.at? (name :: dir) = some e →
    e.shape = shapeOf name
  listed : ∀ key ∈ w.ledger, ∃ p : Path, p.IsPlain ∧ site.root ∈ p.ancestors ∧ key = p.text

variable {b : Blueprint} {site site' : Site} {s₀ s₀' s s' u u' : Store}
  {w w' : Workshop engine}
  {t : Task} {ts : List Task} {e : Entry} {p p' : Path} {l loc : Loc} {name : String}
  {names : List String}

theorem eq_directory_of_shape (h : e.shape = .directory) : e = .directory := by
  cases e with
  | directory => rfl
  | file content => cases h
  | link target => cases h

/-- What lies above a place lies above a given part of it or within the rest. -/
theorem suffix_append_cases (h : l <:+ names ++ loc) :
    l <:+ loc ∨ ∃ name dir, name ∈ names ∧ loc <:+ dir ∧ l = name :: dir := by
  induction names with
  | nil => exact .inl h
  | cons m names ih =>
    rcases List.suffix_cons_iff.mp h with rfl | h
    · exact .inr ⟨m, names ++ loc, List.mem_cons_self, List.suffix_append _ _, rfl⟩
    · exact (ih h).imp_right fun ⟨name, dir, hm, hrest⟩ =>
        ⟨name, dir, List.mem_cons_of_mem _ hm, hrest⟩

/-- Where a task of a project is for: a name that shows whether a directory or a file is to stand
there, below names of directories. -/
theorem task_place (ht : t ∈ b.tasks) (site : Site) : ∃ name outer,
    t.loc site = name :: (outer ++ site.root.loc) ∧ shapeOf name = t.command.shape ∧
      ∀ m ∈ outer, shapeOf m = .directory := by
  have hd := destination_of_mem ht
  obtain ⟨name, hlast, hname⟩ := Option.map_eq_some_iff.mp hd.last
  obtain ⟨outer, houter⟩ := List.getLast?_eq_some_iff.mp hlast
  refine ⟨name, outer.reverse, ?_, ?_, fun m hm => ?_⟩
  · rw [task_loc hd.inner, houter]
    simp
  · rw [shapeOf, hname, Command.shape]
    cases t.command.isFolder <;> rfl
  · rw [shapeOf, hd.outer m (by simpa [houter] using hm)]
    rfl

theorem Site.IsClear.isOpen (h : site.IsClear s₀ w) (hn : ∀ m ∈ names, shapeOf m = .directory) :
    IsOpen w.store (names ++ site.root.loc) := by
  intro l hl
  rcases suffix_append_cases hl with hl | ⟨name, dir, hm, hdir, rfl⟩
  · exact h.way l hl
  · cases hat : w.store.at? (name :: dir) with
    | none => exact .inl rfl
    | some e =>
      exact .inr (congrArg some (eq_directory_of_shape ((h.shaped _ _ e hdir hat).trans (hn _ hm))))

theorem Store.Placed.at?_of_ne (h : Placed p e s u) (hl : l ≠ p.loc) :
    u.at? l = if l <:+ p.loc then some .directory else s.at? l := by
  split
  · next hsuf => exact h.plain.above (by rw [h.here]; rfl) hsuf hl
  · next hsuf => exact (h.view l hl).resolve_right fun hr => hsuf hr.1

/-! ## One command -/

section Command

variable (hroot : site.root.IsPlain) (h : site.IsClear s₀ w) (ht : t ∈ b.tasks)

theorem root_isAbove_task (ht : t ∈ b.tasks) (site : Site) : site.root.IsAbove (t.loc site) := by
  obtain ⟨name, outer, hloc, -⟩ := task_place ht site
  rw [hloc]
  refine ⟨(List.suffix_append outer _).trans (List.suffix_cons _ _), fun he => ?_⟩
  have hlength := congrArg List.length he
  simp only [List.length_cons, List.length_append] at hlength
  omega

include h ht in
/-- After the entry of a task was put in its place, files still stand just where names have dots. -/
theorem Site.IsClear.shaped_placed (hp : Placed (site.locate t.path) e w.store u)
    (hshape : e.shape = t.command.shape) {dir : Loc} {old : Entry} (hdir : site.root.loc <:+ dir)
    (ho : u.at? (name :: dir) = some old) : old.shape = shapeOf name := by
  obtain ⟨last, outer, hloc, hlast, houter⟩ := task_place ht site
  have hloc' : (site.locate t.path).loc = last :: (outer ++ site.root.loc) := hloc
  by_cases hm : name :: dir = (site.locate t.path).loc
  · rw [hm, hp.here] at ho
    rw [hloc'] at hm
    cases ho
    cases hm
    exact hshape.trans hlast.symm
  · rw [hp.at?_of_ne hm] at ho
    split at ho
    -- a directory on the way stands under one of the outer names
    · next hsuf =>
      cases ho
      rw [hloc', List.suffix_cons_iff, ← hloc'] at hsuf
      rcases suffix_append_cases (hsuf.resolve_left hm) with hup | ⟨x, d, hx, -, hxd⟩
      · exact absurd (hup.trans hdir) not_cons_suffix
      · cases hxd
        exact (houter name hx).symm
    · exact h.shaped name dir old hdir ho

include hroot h ht in
theorem Site.IsClear.listed_performed (hd : site.demand? w t.command = some (t.path, e)) :
    ∀ key ∈ (site.perform w t.command).2.ledger,
      ∃ p : Path, p.IsPlain ∧ site.root ∈ p.ancestors ∧ key = p.text := by
  have hin := (destination_of_mem ht).inner
  have hp : (site.locate t.path).IsPlain := Path.child_isPlain hroot hin
  intro key hk
  rcases (perform_notes hd).ledger key hk with hold | ⟨q, rfl | ⟨hqp, hrq, -⟩, rfl⟩
  · exact h.listed key hold
  · exact ⟨_, hp, Path.mem_ancestors_iff_loc.mpr
      ⟨(Path.anchor_child hin).symm, root_isAbove_task ht site⟩, rfl⟩
  · exact ⟨q, hp.of_mem_ancestors hqp, hrq, rfl⟩

include hroot h ht in
/-- On a clear site a command of a project goes through and leaves the site clear. -/
theorem Site.IsClear.command (hf : (site.locate t.path).Fits)
    (hd : site.demand? w t.command = some (t.path, e)) (hshape : e.shape = t.command.shape) :
    ∃ w₁, t.runCommand site w = (.ok (), w₁) ∧ site.IsClear s₀ w₁ ∧
      Placed (site.locate t.path) e w.store w₁.store := by
  have htidy := (tasks_areTidy b site).tidy t ht
  have hs := h.audited.plain
  obtain ⟨name, outer, hloc, hname, houter⟩ := task_place ht site
  have hadmits : w.store.Admits (name :: (outer ++ site.root.loc)) e := fun old ho =>
    (h.shaped name _ old (List.suffix_append _ _) ho).trans (hname.trans hshape.symm)
  obtain ⟨a, w₁, hrun⟩ := perform_ok hroot htidy.inner hs hd hf hloc (h.isOpen houter) hadmits
  have hplaced := perform_placed hroot htidy.inner hs hd hrun
  have hfollows := perform_follows hroot htidy hs h.bundled.current hrun
  have hafter : w₁ = (site.perform w t.command).2 := by rw [hrun]
  refine ⟨w₁, runCommand_ok.mpr ⟨a, hrun⟩, ?_, hplaced⟩
  refine { audited := ?_, bundled := ?_, way := ?_, shaped := ?_, listed := ?_ }
  · rw [hafter]
    refine perform_audited hroot h.audited (fun path hreq => ⟨?_, trivial⟩) fun path hblank => ?_
    · cases (destination?_of_request? hreq).symm.trans t.aimed
      exact htidy.inner
    · have herror := (blank?_eq_some_iff.mp hblank).1
      rw [hrun] at herror
      cases herror
  · exact h.bundled.of_spares hfollows.root (hfollows.builtOn htidy.spares).spares hfollows.keeps
      hs.linkless hfollows.current
  · obtain ⟨hbelow, hne⟩ := root_isAbove_task ht site
    have hthere : (w₁.store.at? (t.loc site)).isSome := by rw [Task.loc, hplaced.here]; rfl
    exact hplaced.plain.isOpen (hplaced.plain.above hthere hbelow hne)
  · exact fun _ _ _ hdir ho => h.shaped_placed ht hplaced hshape hdir ho
  · rw [hafter]
    exact h.listed_performed hroot ht hd

end Command

/-! ## Two sites -/

/-- Two clear sites on which everything looks the same from their roots. -/
structure Alike (site site' : Site) (s₀ s₀' : Store) (w w' : Workshop engine) : Prop where
  left : site.IsClear s₀ w
  right : site'.IsClear s₀' w'
  view : ∀ rel, w'.store.at? (rel ++ site'.root.loc) = w.store.at? (rel ++ site.root.loc)

theorem view_of_placed_alike {r r' : Loc} (hview : ∀ rel, s'.at? (rel ++ r') = s.at? (rel ++ r))
    (h : Placed p e s u) (h' : Placed p' e s' u') (hp : p.loc = names ++ r)
    (hp' : p'.loc = names ++ r') (rel : Loc) : u'.at? (rel ++ r') = u.at? (rel ++ r) := by
  have hsuf : ∀ x : Loc, rel ++ x <:+ names ++ x ↔ rel <:+ names := fun x => by
    rw [← List.reverse_prefix, List.reverse_append, List.reverse_append,
      List.prefix_append_right_inj, List.reverse_prefix]
  by_cases hrel : rel = names
  · rw [hrel, ← hp, ← hp', h.here, h'.here]
  · rw [h.at?_of_ne (by simpa [hp] using hrel), h'.at?_of_ne (by simpa [hp'] using hrel)]
    simp only [hp, hp', hsuf, hview]

section Two

variable (hroot : site.root.IsPlain) (hroot' : site'.root.IsPlain)
  (hd : site.defaults.AreAkin site'.defaults)

include hroot hroot' hd

/-- A task of a project goes through on both of two sites that look alike, and leaves them alike. -/
theorem Alike.task (h : Alike site site' s₀ s₀' w w') (ht : t ∈ b.tasks)
    (hf : (site.locate t.path).Fits) (hf' : (site'.locate t.path).Fits) :
    ∃ w₁ w₁', t.run site w = (.ok (), w₁) ∧ t.run site' w' = (.ok (), w₁') ∧
      Alike site site' s₀ s₀' w₁ w₁' := by
  have hin := (destination_of_mem ht).inner
  have hcommand : ∃ w₁ w₁', t.runCommand site w = (.ok (), w₁) ∧
      t.runCommand site' w' = (.ok (), w₁') ∧ Alike site site' s₀ s₀' w₁ w₁' := by
    obtain ⟨e, hdem, hdem', hshape⟩ := demand?_of_mem h.left.bundled h.right.bundled hd ht
    obtain ⟨w₁, hrun, hclear, hplaced⟩ := h.left.command hroot ht hf hdem hshape
    obtain ⟨w₁', hrun', hclear', hplaced'⟩ := h.right.command hroot' ht hf' hdem' hshape
    exact ⟨w₁, w₁', hrun, hrun', hclear, hclear',
      view_of_placed_alike h.view hplaced hplaced' (task_loc hin) (task_loc hin)⟩
  unfold Task.run
  split
  · have hsame : (w'.store.at? (site'.locate t.path).loc).isSome =
        (w.store.at? (site.locate t.path).loc).isSome := by
      have hloc : (site.locate t.path).loc = _ := task_loc hin
      have hloc' : (site'.locate t.path).loc = _ := task_loc hin
      rw [hloc, hloc', h.view]
    have hp : (site.locate t.path).IsPlain := Path.child_isPlain hroot hin
    have hp' : (site'.locate t.path).IsPlain := Path.child_isPlain hroot' hin
    rw [exists?_of_fits h.left.audited.plain hp hf, exists?_of_fits h.right.audited.plain hp' hf',
      hsame]
    cases (w.store.at? (site.locate t.path).loc).isSome with
    | true => exact ⟨w, w', rfl, rfl, h⟩
    | false => exact hcommand
  · exact hcommand

/-- **Alike sites stay alike.** Tasks of a project go through on both, and leave them alike. -/
theorem Alike.runAll (h : Alike site site' s₀ s₀' w w') (hts : ∀ t ∈ ts, t ∈ b.tasks)
    (hf : ∀ t ∈ ts, (site.locate t.path).Fits ∧ (site'.locate t.path).Fits) :
    ∃ w₁ w₁', site.runAll ts w = (.ok (), w₁) ∧ site'.runAll ts w' = (.ok (), w₁') ∧
      Alike site site' s₀ s₀' w₁ w₁' := by
  induction ts generalizing w w' with
  | nil => exact ⟨w, w', rfl, rfl, h⟩
  | cons t ts ih =>
    obtain ⟨ht, hrest⟩ := List.forall_mem_cons.mp hts
    obtain ⟨⟨hft, hft'⟩, hfrest⟩ := List.forall_mem_cons.mp hf
    obtain ⟨w₁, w₁', hrun, hrun', h₁⟩ := h.task hroot hroot' hd ht hft hft'
    obtain ⟨w₂, w₂', hall, hall', h₂⟩ := ih h₁ hrest hfrest
    refine ⟨w₂, w₂', ?_, ?_, h₂⟩
    · rw [Site.runAll, hrun]; exact hall
    · rw [Site.runAll, hrun']; exact hall'

end Two

end Scaffold
