import Scaffold.Proofs.Path.Fitting
import Scaffold.Proofs.Store.Creation

/-!
# When creating succeeds

`IsOpen s loc` says that nothing but directories stands on the way to a place, the place included.
In a plain store a directory can be made wherever the way is open and the path fits (`makeDirs_ok`),
and a text in UTF-8 can be written below an open way unless a directory is in its place
(`writeBelow_ok`).
-/

namespace Scaffold.Store

open Scaffold.Path (pathTo)

/-- Nothing but directories stands on the way to a place or at it. -/
def IsOpen (s : Store) (loc : Loc) : Prop :=
  ∀ l, l <:+ loc → s.at? l = none ∨ s.at? l = some .directory

variable {s : Store} {p : Path} {aim : Aim} {here loc dir l : Loc} {name : String}
  {names rest : List String} {anchor : Anchor}

theorem IsOpen.of_suffix (h : IsOpen s loc) (hd : dir <:+ loc) : IsOpen s dir :=
  fun l hl => h l (hl.trans hd)

theorem IsPlain.isOpen (hs : s.IsPlain) (hd : s.at? loc = some .directory) : IsOpen s loc := by
  intro l hl
  by_cases he : l = loc
  · exact .inr (he ▸ hd)
  · exact .inr (hs.above (by simp [hd]) hl he)

theorem descend_append {there : Loc} (h : s.descend here names = .entry there) :
    s.descend here (names ++ rest) = s.descend there rest := by
  induction names generalizing here with
  | nil => cases h; rfl
  | cons m more ih =>
    unfold descend at h
    rw [List.cons_append, descend]
    split at h
    · cases h
    next hd =>
    rw [if_neg hd]
    split at h
    · cases h
    next hlong =>
    rw [if_neg hlong]
    split at h
    · split at h <;> cases h
    · exact ih h

theorem place_of_isSome (hs : s.IsPlain) (hp : p.IsPlain) (hf : p.Fits)
    (h : (s.at? p.loc).isSome) : s.place aim p = .entry p.loc := by
  cases hpl : s.place aim p with
  | entry loc => rw [(place_entry hs hp hpl).1]
  | vacant dir name => rw [(place_vacant hs hp hpl).2.1] at h; cases h
  | refused why =>
    rw [place_eq_descend hs hp, if_neg (by have := hf.short; omega)] at hpl
    rcases descend_refused hs hpl with ⟨-, m, hm, hlong⟩ | ⟨-, hnone⟩
    · have := hf.names m hm
      omega
    · rw [List.append_nil] at hnone
      rw [Path.loc, hnone] at h
      cases h

theorem names_of_loc (h : p.loc = name :: dir) : p.names = dir.reverse ++ [name] := by
  have := congrArg List.reverse h
  simpa [Path.loc] using this

theorem place_eq_concat (hs : s.IsPlain) (hp : p.IsPlain) (hf : p.Fits)
    (hloc : p.loc = name :: dir) : s.place aim p = s.descend [] (dir.reverse ++ [name]) := by
  rw [place_eq_descend hs hp, if_neg (by have := hf.short; omega), names_of_loc hloc]

theorem place_of_parent (hs : s.IsPlain) (hp : p.IsPlain) (hf : p.Fits)
    (hloc : p.loc = name :: dir) (hnone : s.at? (name :: dir) = none)
    (hdir : s.at? dir = some .directory) : s.place aim p = .vacant dir name := by
  have hname : name.utf8ByteSize ≤ nameLimit := hf.names name (by simp [names_of_loc hloc])
  have hup : (pathTo p.anchor dir).Fits ∧ (pathTo p.anchor dir).IsPlain := by
    have hsuf : dir <:+ p.loc := by rw [hloc]; exact List.suffix_cons name dir
    exact ⟨hf.of_suffix hp.anchored hsuf, hp.of_suffix hsuf⟩
  have hfound : s.descend [] dir.reverse = .entry dir := by
    have hpl := @place_of_isSome s (pathTo p.anchor dir) aim hs hup.2 hup.1 (by simp [hdir])
    rw [place_eq_descend hs hup.2, if_neg (by have := hup.1.short; omega)] at hpl
    simpa using hpl
  rw [place_eq_concat hs hp hf hloc, descend_append hfound, descend,
    if_neg (by simp [isDirectoryAt_iff.mpr hdir]), if_neg (by omega), hnone, if_pos rfl]

/-- On an open way to a place in a directory that is not there, an entry is missing. -/
theorem descend_of_gap (hhere : s.at? here = some .directory)
    (hnames : ∀ m ∈ names, m.utf8ByteSize ≤ nameLimit)
    (hopen : IsOpen s (names.reverse ++ here)) (hgap : s.at? (names.reverse ++ here) = none) :
    s.descend here (names ++ [name]) = .refused .noEntry := by
  induction names generalizing here with
  | nil => rw [List.reverse_nil, List.nil_append, hhere] at hgap; cases hgap
  | cons m more ih =>
    have hcons : (m :: more).reverse ++ here = more.reverse ++ m :: here := by simp
    rw [hcons] at hopen hgap
    have hm := hnames m List.mem_cons_self
    rw [List.cons_append, descend, if_neg (by simp [isDirectoryAt_iff.mpr hhere]),
      if_neg (by omega)]
    rcases hopen (m :: here) (List.suffix_append _ _) with hnone | hdir
    · rw [hnone, if_neg (by simp)]
    · rw [hdir]
      exact ih hdir (fun k hk => hnames k (List.mem_cons_of_mem _ hk)) hopen hgap

theorem place_of_gap (hs : s.IsPlain) (hp : p.IsPlain) (hf : p.Fits) (hloc : p.loc = name :: dir)
    (hopen : IsOpen s dir) (hgap : s.at? dir = none) : s.place aim p = .refused .noEntry := by
  rw [place_eq_concat hs hp hf hloc]
  refine descend_of_gap at?_root (fun m hm => hf.names m ?_) (by simpa using hopen)
    (by simpa using hgap)
  rw [names_of_loc hloc]
  exact List.mem_append_left _ hm

/-! ## Making directories -/

theorem toleratePresent_of_directory (hs : s.IsPlain) (hp : p.IsPlain) (hf : p.Fits)
    (hd : s.at? p.loc = some .directory) (why : Refusal) (path : String) :
    toleratePresent s p (.refused why path) = .ok () := by
  simp [toleratePresent, isDirectory?_of_fits hs hp hf, isDirectoryAt_iff.mpr hd]

theorem makeDir_of_isSome (hs : s.IsPlain) (hp : p.IsPlain) (hf : p.Fits)
    (h : (s.at? p.loc).isSome) : s.makeDir p = .error (.refused .exists p.text) := by
  rw [makeDir, if_neg (by simp [hf.noNul]), place_of_isSome hs hp hf h]

theorem makeDir_of_parent (hs : s.IsPlain) (hp : p.IsPlain) (hf : p.Fits)
    (hloc : p.loc = name :: dir) (hnone : s.at? (name :: dir) = none)
    (hdir : s.at? dir = some .directory) :
    s.makeDir p = .ok (s.insert (name :: dir) .directory) := by
  rw [makeDir, if_neg (by simp [hf.noNul]), place_of_parent hs hp hf hloc hnone hdir]

theorem makeDir_of_gap (hs : s.IsPlain) (hp : p.IsPlain) (hf : p.Fits) (hloc : p.loc = name :: dir)
    (hopen : IsOpen s dir) (hgap : s.at? dir = none) :
    s.makeDir p = .error (.refused .noEntry p.text) := by
  rw [makeDir, if_neg (by simp [hf.noNul]), place_of_gap hs hp hf hloc hopen hgap]

theorem makeDirsAt_ok (hs : s.IsPlain) (hp : (pathTo anchor loc).IsPlain)
    (hf : (pathTo anchor loc).Fits) (ho : IsOpen s loc) : (makeDirsAt anchor loc s).1 = .ok () := by
  induction loc generalizing s with
  | nil =>
    have hroot : s.at? (pathTo anchor []).loc = some .directory := at?_root
    have hthere : (s.at? (pathTo anchor []).loc).isSome := by rw [hroot]; rfl
    have hmake : s.makeDir ⟨anchor, []⟩ = _ := makeDir_of_isSome hs hp hf hthere
    rw [makeDirsAt, hmake]
    exact toleratePresent_of_directory hs hp hf hroot _ _
  | cons name outer ih =>
    have hloc : (pathTo anchor (name :: outer)).loc = name :: outer := Path.loc_pathTo
    have hsuf : outer <:+ (pathTo anchor (name :: outer)).loc := by
      rw [hloc]; exact List.suffix_cons name outer
    have hup : (pathTo anchor outer).IsPlain := hp.of_suffix hsuf
    have hupf : (pathTo anchor outer).Fits := hf.of_suffix hp.anchored hsuf
    have hopen : IsOpen s outer := ho.of_suffix (List.suffix_cons name outer)
    unfold makeDirsAt
    dsimp only
    rcases ho (name :: outer) List.suffix_rfl with hnone | hdir
    · rcases hopen outer List.suffix_rfl with hgap | hparent
      · have hmake : s.makeDir ⟨anchor, (name :: outer).reverse⟩ = _ :=
          makeDir_of_gap hs hp hf hloc hopen hgap
        rw [hmake]
        have hmade := makeDirsAt_made anchor outer hs hup
        have hok := ih hs hup hupf hopen
        cases hm : makeDirsAt anchor outer s with
        | mk r t =>
          rw [hm] at hmade hok
          have hplaced := hmade.ok hok
          have hdirt : t.at? outer = some .directory := by simpa using hplaced.here
          have hnonet : t.at? (name :: outer) = none := by
            rcases hplaced.view (name :: outer) (by simp) with hv | ⟨hbelow, -⟩
            · rw [hv, hnone]
            · have := hbelow.length_le
              simp only [Path.loc_pathTo, List.length_cons] at this
              omega
          have hagain : t.makeDir ⟨anchor, (name :: outer).reverse⟩ = _ :=
            makeDir_of_parent hplaced.plain hp hf hloc hnonet hdirt
          cases hok
          simp only [hagain]
      · have hmake : s.makeDir ⟨anchor, (name :: outer).reverse⟩ = _ :=
          makeDir_of_parent hs hp hf hloc hnone hparent
        rw [hmake]
    · have hat : s.at? (pathTo anchor (name :: outer)).loc = some .directory := by rw [hloc, hdir]
      have hthere : (s.at? (pathTo anchor (name :: outer)).loc).isSome := by rw [hat]; rfl
      have hmake : s.makeDir ⟨anchor, (name :: outer).reverse⟩ = _ :=
        makeDir_of_isSome hs hp hf hthere
      rw [hmake]
      exact toleratePresent_of_directory hs hp hf hat _ _

theorem makeDirs_ok (hs : s.IsPlain) (hp : p.IsPlain) (hf : p.Fits) (ho : IsOpen s p.loc) :
    (s.makeDirs p).1 = .ok () := by
  have hback : pathTo p.anchor p.names.reverse = p := Path.pathTo_loc p
  exact makeDirsAt_ok hs (by rwa [hback]) (by rwa [hback]) ho

/-! ## Writing files -/

theorem opens_of_parent (hs : s.IsPlain) (hp : p.IsPlain) (hf : p.Fits)
    (hloc : p.loc = name :: dir) (hdir : s.at? dir = some .directory)
    (hn : s.at? (name :: dir) ≠ some .directory) : s.Opens p (name :: dir) := by
  refine ⟨hf.noNul, ?_⟩
  cases ha : s.at? (name :: dir) with
  | none => exact .inr ⟨dir, name, place_of_parent hs hp hf hloc ha hdir, rfl⟩
  | some e =>
    rcases hs.file_or_directory ha with ⟨old, rfl⟩ | rfl
    · exact .inl ⟨by rw [place_of_isSome hs hp hf (by rw [hloc, ha]; rfl), hloc], old, rfl⟩
    · exact absurd ha hn

/-- A file that can be opened takes every text that has a form in UTF-8. -/
theorem Opens.writeText_ok {content : Content} (h : s.Opens p loc)
    (hc : content.bytes?.isSome) : (s.writeText p content).1 = .ok () := by
  obtain ⟨bytes, hb⟩ := Option.isSome_iff_exists.mp hc
  rw [writeText, openFile_ok_iff.mpr ⟨h, rfl⟩]
  simp only [hb]

theorem writeBelow_ok {content : Content} (hs : s.IsPlain) (hp : p.IsPlain) (hf : p.Fits)
    (hloc : p.loc = name :: dir) (hopen : IsOpen s dir)
    (hn : s.at? (name :: dir) ≠ some .directory) (hc : content.bytes?.isSome) :
    (s.writeBelow p content).1 = .ok () := by
  have hparent : p.parent = pathTo p.anchor dir := by
    rw [← Path.pathTo_loc p.parent, Path.loc_parent, hloc]
    rfl
  have hsuf : dir <:+ p.loc := by rw [hloc]; exact List.suffix_cons name dir
  have hup := hp.of_suffix hsuf
  have hmade := makeDirs_made hs hup
  have hok := makeDirs_ok hs hup (hf.of_suffix hp.anchored hsuf) (by simpa using hopen)
  unfold writeBelow
  rw [hparent]
  cases hm : s.makeDirs (pathTo p.anchor dir) with
  | mk r t =>
    rw [hm] at hmade hok
    have hplaced := hmade.ok hok
    have hdir : t.at? dir = some .directory := by simpa using hplaced.here
    have hnt : t.at? (name :: dir) ≠ some .directory := by
      rcases hplaced.view (name :: dir) (by simp) with hv | ⟨hbelow, -⟩
      · rwa [hv]
      · have := hbelow.length_le
        simp only [Path.loc_pathTo, List.length_cons] at this
        omega
    have hopens := opens_of_parent hplaced.plain hp hf hloc hdir hnt
    cases hok
    exact hopens.writeText_ok hc

end Scaffold.Store
