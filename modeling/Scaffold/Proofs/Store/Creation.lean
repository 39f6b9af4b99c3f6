import Scaffold.Proofs.Store.Growth
import Scaffold.Proofs.Store.Plain

/-!
# Creating in plain stores

What making directories and writing do to the view of a plain store. `Paved anchor s t loc` says
that `t` is `s` with some missing directories made on the way to `loc`. An operation that creates
something at a path (`Made`) paves the way above it, whether it fails or not, and changes the place
itself only if it goes through (`makeDirs_made`); a file may be left empty there
(`writeBelow_written`).
-/

namespace Scaffold.Store

open Scaffold.Path (pathTo)

variable {anchor : Anchor} {p : Path} {s t u : Store} {loc : Loc} {f : Fault}

/-- `t` is `s` with missing directories made on the way to a place. -/
structure Paved (anchor : Anchor) (s t : Store) (loc : Loc) : Prop where
  plain : t.IsPlain
  view : ∀ l, t.at? l = s.at? l ∨
    (l <:+ loc ∧ s.at? l = none ∧ t.at? l = some .directory ∧ (pathTo anchor l).Fits)

theorem Paved.refl (hs : s.IsPlain) : Paved anchor s s loc := ⟨hs, fun _ => .inl rfl⟩

theorem Paved.mono {dir : Loc} (h : Paved anchor s t dir) (hd : dir <:+ loc) :
    Paved anchor s t loc where
  plain := h.plain
  view l := (h.view l).imp_right fun ⟨hl, hrest⟩ => ⟨hl.trans hd, hrest⟩

theorem Paved.trans (h1 : Paved anchor s t loc) (h2 : Paved anchor t u loc) :
    Paved anchor s u loc where
  plain := h2.plain
  view l := by
    rcases h1.view l with e1 | ⟨hl, hn, hd, hf⟩ <;> rcases h2.view l with e2 | ⟨hl', hn', hd', hf'⟩
    · exact .inl (e2.trans e1)
    · exact .inr ⟨hl', e1 ▸ hn', hd', hf'⟩
    · exact .inr ⟨hl, hn, e2.trans hd, hf⟩
    · rw [hd] at hn'; cases hn'

theorem Paved.at?_of_some (h : Paved anchor s t loc) {l : Loc} {e : Entry} (he : s.at? l = some e) :
    t.at? l = some e := by
  rcases h.view l with e1 | ⟨-, hn, -⟩
  · rw [e1, he]
  · rw [he] at hn; cases hn

theorem not_cons_suffix {name : String} {dir : Loc} : ¬ name :: dir <:+ dir := by
  intro h
  have := h.length_le
  simp only [List.length_cons] at this
  omega

theorem makeDir_ok (hs : s.IsPlain) (hp : p.IsPlain) (h : s.makeDir p = .ok t) :
    p.Fits ∧ s.at? p.loc = none ∧ t = s.insert p.loc .directory ∧ p.loc ≠ [] ∧ t.IsPlain := by
  unfold makeDir at h
  split at h
  · cases h
  next hnul =>
  split at h
  · cases h
  · next dir name hpl =>
    obtain ⟨hloc, hnone, hdir, hshort, hnames⟩ := place_vacant hs hp hpl
    cases h
    rw [hloc]
    refine ⟨⟨by simpa using hnul, hshort, hnames⟩, hnone, rfl, by simp [← hloc], ?_⟩
    rw [← hloc] at hnone ⊢
    exact hs.insert hdir (by simp [hnone]) (by simp)
  · cases h

theorem makeDir_paved (hs : s.IsPlain) (hp : p.IsPlain) (h : s.makeDir p = .ok t) :
    Paved p.anchor s t p.loc ∧ t.at? p.loc = some .directory ∧ p.Fits := by
  obtain ⟨hf, hnone, rfl, hne, ht⟩ := makeDir_ok hs hp h
  have hself : (s.insert p.loc .directory).at? p.loc = some .directory := at?_insert_self hne
  refine ⟨⟨ht, fun l => ?_⟩, hself, hf⟩
  by_cases hl : l = p.loc
  · subst hl
    exact .inr ⟨List.suffix_rfl, hnone, hself, by rwa [Path.pathTo_loc]⟩
  · exact .inl (at?_insert_of_ne hl)

theorem probe_some (hs : s.IsPlain) (hp : p.IsPlain) {aim : Aim} {found : Loc × Entry}
    (h : s.probe aim p = .ok (some found)) :
    p.Fits ∧ found.1 = p.loc ∧ s.at? p.loc = some found.2 := by
  have hfound := probe_ok hs hp h
  unfold probe at h
  split at h
  · cases h
  next hnul =>
  rw [if_neg hnul] at hfound
  obtain ⟨e, he, rfl⟩ := Option.map_eq_some_iff.mp hfound.symm
  split at h
  · next hpl =>
    obtain ⟨-, -, hshort, hnames⟩ := place_entry hs hp hpl
    exact ⟨⟨by simpa using hnul, hshort, hnames⟩, rfl, he⟩
  · cases h
  · split at h <;> cases h

theorem fits_of_exists? (hs : s.IsPlain) (hp : p.IsPlain) (h : s.exists? p = .ok true) :
    p.Fits := by
  unfold exists? look at h
  cases hpr : s.probe .target p with
  | error why => rw [hpr] at h; cases h
  | ok found =>
    rw [hpr] at h
    cases found with
    | none => cases h
    | some found => exact (probe_some hs hp hpr).1

theorem isDirectory?_true (hs : s.IsPlain) (hp : p.IsPlain) (h : s.isDirectory? p = .ok true) :
    p.Fits ∧ s.at? p.loc = some .directory := by
  unfold isDirectory? look at h
  cases hpr : s.probe .target p with
  | error why => rw [hpr] at h; cases h
  | ok found =>
    rw [hpr] at h
    cases found with
    | none => cases h
    | some found =>
      obtain ⟨hf, -, he⟩ := probe_some hs hp hpr
      refine ⟨hf, he.trans ?_⟩
      have hd : found.2.isDirectory = true := Except.ok.inj h
      cases hfe : found.2 <;> simp_all [Entry.isDirectory]

theorem toleratePresent_ok (hs : s.IsPlain) (hp : p.IsPlain)
    (h : toleratePresent s p f = .ok ()) : p.Fits ∧ s.at? p.loc = some .directory := by
  unfold toleratePresent at h
  split at h
  · split at h
    · next hd => exact isDirectory?_true hs hp hd
    · cases h
    · cases h
  · cases h

/-! ## A directory and those above it -/

/-- `t` is `s` with an entry put at the place of a path, over an entry of the same shape if there
was one, and with missing directories made above it. -/
structure Placed (p : Path) (e : Entry) (s t : Store) : Prop where
  plain : t.IsPlain
  fits : p.Fits
  here : t.at? p.loc = some e
  before : ∀ old, s.at? p.loc = some old → e.shape = old.shape
  view : ∀ l, l ≠ p.loc → t.at? l = s.at? l ∨
    (l <:+ p.loc ∧ s.at? l = none ∧ t.at? l = some .directory ∧ (pathTo p.anchor l).Fits)

/-- What creating an entry with the directories above it comes to. -/
structure Made (p : Path) (e : Entry) (s : Store) (r : Except Fault Unit × Store) : Prop where
  ok : r.1 = .ok () → Placed p e s r.2
  error : ∀ f, r.1 = .error f → Paved p.anchor s r.2 p.loc.tail

theorem Paved.placed (h : Paved p.anchor s t p.loc) (hd : t.at? p.loc = some .directory)
    (hf : p.Fits) : Placed p .directory s t where
  plain := h.plain
  fits := hf
  here := hd
  before old ho := by
    have := h.at?_of_some ho
    rw [hd] at this
    cases this; rfl
  view l _ := h.view l

theorem Placed.paved (h : Placed p .directory s t) : Paved p.anchor s t p.loc where
  plain := h.plain
  view l := by
    by_cases hl : l = p.loc
    · subst hl
      cases ho : s.at? p.loc with
      | none => exact .inr ⟨List.suffix_rfl, rfl, h.here, by rw [Path.pathTo_loc]; exact h.fits⟩
      | some old =>
        refine .inl (h.here.trans ?_)
        have := h.before old ho
        cases old <;> simp_all [Entry.shape]
    · exact h.view l hl

theorem Made.of_tolerate (hs : s.IsPlain) (hp : p.IsPlain) :
    Made p .directory s (toleratePresent s p f, s) where
  ok h := by
    obtain ⟨hf, hd⟩ := toleratePresent_ok hs hp h
    exact (Paved.refl hs).placed hd hf
  error _ _ := .refl hs

theorem Made.of_makeDir (hs : s.IsPlain) (hp : p.IsPlain) (h : s.makeDir p = .ok t) :
    Made p .directory s (.ok (), t) where
  ok _ := by
    obtain ⟨hpaved, hd, hf⟩ := makeDir_paved hs hp h
    exact hpaved.placed hd hf
  error _ h := nomatch h

theorem makeDirsAt_made (anchor : Anchor) (names : Loc) (hs : s.IsPlain)
    (hp : (pathTo anchor names).IsPlain) :
    Made (pathTo anchor names) .directory s (makeDirsAt anchor names s) := by
  induction names generalizing s with
  | nil =>
    unfold makeDirsAt
    split
    · next ht => exact .of_makeDir hs hp ht
    · exact .of_tolerate hs hp
  | cons name outer ih =>
    have hloc : (pathTo anchor (name :: outer)).loc = name :: outer := Path.loc_pathTo
    have htail : (pathTo anchor (name :: outer)).loc.tail = outer := by rw [hloc]; rfl
    have hparent : (pathTo anchor outer).IsPlain :=
      hp.of_suffix (by rw [hloc]; exact List.suffix_cons name outer)
    unfold makeDirsAt
    simp only
    split
    · next ht => exact .of_makeDir hs hp ht
    · have hmade := ih hs hparent
      split
      · next f t he =>
        rw [he] at hmade
        refine ⟨fun h => (by cases h), fun _ _ => (hmade.error f rfl).mono ?_⟩
        rw [htail, Path.loc_pathTo]
        exact List.tail_suffix outer
      · next t he =>
        rw [he] at hmade
        have hup := (hmade.ok rfl).paved
        rw [Path.loc_pathTo] at hup
        have hon : Paved anchor s t (name :: outer) := hup.mono (List.suffix_cons _ _)
        -- the directory above is there now, so this attempt decides
        split
        · next u hu =>
          obtain ⟨hlast, hd, hf⟩ := makeDir_paved hup.plain hp hu
          rw [← hloc] at hon
          exact ⟨fun _ => (hon.trans hlast).placed hd hf, fun _ h => (by cases h)⟩
        · exact ⟨fun h => (by cases h), fun _ _ => by rw [htail]; exact hup⟩
        · next f _ _ =>
          refine ⟨fun h => ?_, fun _ _ => by rw [htail]; exact hup⟩
          obtain ⟨hf, hd⟩ := toleratePresent_ok hup.plain hp h
          rw [← hloc] at hon
          exact hon.placed hd hf
    · exact .of_tolerate hs hp

theorem makeDirs_made (hs : s.IsPlain) (hp : p.IsPlain) : Made p .directory s (s.makeDirs p) := by
  have hback : pathTo p.anchor p.names.reverse = p := Path.pathTo_loc p
  have := makeDirsAt_made p.anchor p.names.reverse hs (by rwa [hback])
  rwa [hback] at this

/-! ## A file and the directories above it -/

/-- In a plain store a path is opened at the place that it spells. -/
theorem Opens.plain (h : s.Opens p loc) (hs : s.IsPlain) (hp : p.IsPlain) :
    loc = p.loc ∧ p.Fits ∧ p.loc ≠ [] ∧ s.at? p.loc ≠ some .directory ∧
      ∀ content, (s.insert p.loc (.file content)).IsPlain := by
  obtain ⟨hnul, ⟨hpl, old, hold⟩ | ⟨dir, name, hpl, rfl⟩⟩ := h
  · obtain ⟨rfl, hsome, hshort, hnames⟩ := place_entry hs hp hpl
    cases hloc : p.loc with
    | nil => rw [hloc, at?_root] at hold; cases hold
    | cons name dir =>
      rw [hloc] at hold hsome
      exact ⟨rfl, ⟨hnul, hshort, hnames⟩, by simp, by simp [hold], fun content =>
        hs.insert (hs.closed name dir hsome) (by simp [hold]) (by simp)⟩
  · obtain ⟨hloc, hnone, hdir, hshort, hnames⟩ := place_vacant hs hp hpl
    rw [← hloc] at hnone ⊢
    exact ⟨rfl, ⟨hnul, hshort, hnames⟩, by simp, by simp [hnone], fun content =>
      hs.insert hdir (by simp [hnone]) (by simp)⟩

theorem Paved.write (h : Paved p.anchor s t p.loc.tail) (hp : p.IsPlain) (ho : t.Opens p loc)
    (content : ByteArray) : Placed p (.file content) s (t.insert loc (.file content)) := by
  obtain ⟨rfl, hf, hne, hold, hplain⟩ := ho.plain h.plain hp
  refine ⟨hplain content, hf, at?_insert_self hne, fun old ho => ?_, fun l hl => ?_⟩
  · have hkept := h.at?_of_some ho
    rcases h.plain.file_or_directory hkept with ⟨_, rfl⟩ | rfl
    · rfl
    · exact absurd hkept hold
  · rw [at?_insert_of_ne hl]
    exact (h.mono (List.tail_suffix _)).view l

/-- What writing a text with the directories above it comes to: the file holds it, or is left empty
since the text has no form in UTF-8, or there is no file but the way to it is paved. -/
structure Written (p : Path) (content : Content) (s : Store) (r : Except Fault Unit × Store) :
    Prop where
  ok : r.1 = .ok () → ∃ bytes, content.bytes? = some bytes ∧ Placed p (.file bytes) s r.2
  emptied : r.1 = .error .unencodable → content.bytes? = none ∧ Placed p (.file .empty) s r.2
  opened : r.1 = .error .unencodable →
    ∃ t, Paved p.anchor s t p.loc.tail ∧ r.2 = t.insert p.loc (.file .empty)
  error : ∀ f, f ≠ .unencodable → r.1 = .error f → Paved p.anchor s r.2 p.loc.tail

theorem writeBelow_written (hs : s.IsPlain) (hp : p.IsPlain) (content : Content) :
    Written p content s (s.writeBelow p content) := by
  have hup := makeDirs_made hs hp.parent
  unfold writeBelow
  split
  · next f t he =>
    have hf : f ≠ .unencodable := fun h => makeDirs_ne_unencodable s p.parent (by rw [he, h])
    rw [he] at hup
    refine ⟨fun h => (nomatch h), fun h => absurd (Except.error.inj h) hf,
      fun h => absurd (Except.error.inj h) hf, fun _ _ _ => ?_⟩
    refine (hup.error _ rfl).mono ?_
    rw [Path.loc_parent]
    exact List.tail_suffix _
  · next t he =>
    rw [he] at hup
    have hpaved := (hup.ok rfl).paved
    rw [Path.loc_parent] at hpaved
    rcases t.writeText_cases p content with
      ⟨f, hf, hw⟩ | ⟨loc, hopen, ⟨bytes, hb, hw⟩ | ⟨hb, hw⟩⟩ <;> rw [hw]
    · exact ⟨fun h => (nomatch h), fun h => absurd (Except.error.inj h) hf,
        fun h => absurd (Except.error.inj h) hf, fun _ _ _ => hpaved⟩
    · exact ⟨fun _ => ⟨bytes, hb, hpaved.write hp hopen bytes⟩, fun h => (nomatch h),
        fun h => (nomatch h), fun _ _ h => (nomatch h)⟩
    · obtain ⟨rfl, -⟩ := hopen.plain hpaved.plain hp
      exact ⟨fun h => (nomatch h), fun _ => ⟨hb, hpaved.write hp hopen .empty⟩,
        fun _ => ⟨t, hpaved, rfl⟩, fun _ hne h => absurd (Except.error.inj h).symm hne⟩

/-- `t` looks like `s` but for a place and the way to it. -/
structure SameBeside (loc : Loc) (s t : Store) : Prop where
  plain : t.IsPlain
  view : ∀ l, ¬ l <:+ loc → t.at? l = s.at? l

theorem SameBeside.refl (hs : s.IsPlain) : s.SameBeside loc s := ⟨hs, fun _ _ => rfl⟩

theorem SameBeside.trans (h : s.SameBeside loc t) (h' : t.SameBeside loc u) :
    s.SameBeside loc u := ⟨h'.plain, fun l hl => (h'.view l hl).trans (h.view l hl)⟩

theorem Paved.sameBeside (h : Paved anchor s t loc) : s.SameBeside loc t :=
  ⟨h.plain, fun l hl => (h.view l).resolve_right fun hway => hl hway.1⟩

theorem Placed.sameBeside (h : Placed p e s t) : s.SameBeside p.loc t where
  plain := h.plain
  view l hl := by
    have hne : l ≠ p.loc := by
      rintro rfl
      exact hl List.suffix_rfl
    exact (h.view l hne).resolve_right fun hway => hl hway.1

theorem Made.sameBeside {r : Except Fault Unit × Store} (h : Made p e s r) :
    s.SameBeside p.loc r.2 := by
  cases hr : r.1 with
  | ok _ => exact (h.ok hr).sameBeside
  | error f => exact ((h.error f hr).mono (List.tail_suffix _)).sameBeside

theorem Written.sameBeside {content : Content} {r : Except Fault Unit × Store}
    (h : Written p content s r) : s.SameBeside p.loc r.2 := by
  cases hr : r.1 with
  | ok _ => exact (h.ok hr).choose_spec.2.sameBeside
  | error f =>
    by_cases hf : f = .unencodable
    · subst hf
      exact (h.emptied hr).2.sameBeside
    · exact ((h.error f hf hr).mono (List.tail_suffix _)).sameBeside

end Scaffold.Store
