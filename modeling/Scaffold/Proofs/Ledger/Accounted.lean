import Scaffold.Proofs.Store.Creation

/-!
# Accounts of a store

`Accounted root s₀ asked blank s locs` relates the store `s₀` from before some work below `root` to
the store `s` after it and to the places `locs` that were listed on the way: what was there stays,
what was not asked for is untouched, all that is new below the root is listed, and a listed place
comes after the new directories above it. Only an empty file at a `blank` place, one that could not
be filled, may be new and not listed. `Accounted.paved`, `Accounted.placed` and `Accounted.blanked`
keep an account when directories are made above the work, when a place is created and listed, and
when a file is left blank.
-/

namespace Scaffold

open Store
open Scaffold.Path (pathTo)

def enlist (locs : List Loc) (loc : Loc) : List Loc := if loc ∈ locs then locs else locs ++ [loc]

/-- How places were changed and listed between two stores. -/
structure Accounted (root : Path) (s₀ : Store) (asked blank : Loc → Prop) (s : Store)
    (locs : List Loc) : Prop where
  plain : s.IsPlain
  /-- Nothing disappears, and only what was asked for changes. -/
  kept : ∀ loc e, s₀.at? loc = some e →
    ∃ e', s.at? loc = some e' ∧ e'.shape = e.shape ∧ (¬ asked loc → e' = e)
  /-- What is new is listed, except for directories down to the root and files left blank. -/
  fresh : ∀ loc, s₀.at? loc = none → (s.at? loc).isSome → (pathTo root.anchor loc).Fits ∧
    (loc ∈ locs ∨ (loc <:+ root.loc ∧ s.at? loc = some .directory) ∨
      (blank loc ∧ s.at? loc = some (.file .empty)))
  /-- What is listed is there, and it was asked for or is new. -/
  recorded : ∀ loc ∈ locs, (pathTo root.anchor loc).IsPlain ∧ (pathTo root.anchor loc).Fits ∧
    root.loc <:+ loc ∧ (s.at? loc).isSome ∧ (asked loc ∨ s₀.at? loc = none)
  nodup : locs.Nodup
  /-- New directories below the root are listed before what lies in them. -/
  ordered : ∀ older loc newer, locs = older ++ loc :: newer → ∀ dir, root.IsAbove dir →
    dir <:+ loc → dir ≠ loc → s₀.at? dir = none → dir ∈ older

/-- On the way to a place nothing is missing below the root. -/
def IsTrodden (root : Path) (s : Store) (loc : Loc) : Prop :=
  ∀ dir, dir <:+ loc → dir <:+ root.loc ∨ (s.at? dir).isSome

variable {root p : Path} {s₀ s t : Store} {asked blank : Loc → Prop} {locs older newer : List Loc}
  {loc dir : Loc} {e : Entry}

theorem not_suffix_of_isAbove (h : root.IsAbove loc) : ¬ loc <:+ root.loc :=
  fun hs => h.2 (h.1.eq_of_length_le hs.length_le)

theorem Accounted.unasked (h : Accounted root s₀ asked blank s locs) (he : s₀.at? loc = some e)
    (ha : ¬ asked loc) : s.at? loc = some e := by
  obtain ⟨e', he', -, hsame⟩ := h.kept loc e he
  rw [he', hsame ha]

theorem Accounted.not_listed (h : Accounted root s₀ asked blank s locs) (he : s₀.at? loc = some e)
    (ha : ¬ asked loc) : loc ∉ locs := by
  intro hin
  obtain ⟨-, -, -, -, hnew⟩ := h.recorded loc hin
  rcases hnew with hask | hn
  · exact ha hask
  · rw [he] at hn; cases hn

theorem mem_enlist {l : Loc} : l ∈ enlist locs loc ↔ l ∈ locs ∨ l = loc := by
  unfold enlist
  split
  · next h =>
    refine ⟨.inl, fun h' => h'.elim id fun e => ?_⟩
    rw [e]; exact h
  · simp

theorem nodup_enlist (h : locs.Nodup) : (enlist locs loc).Nodup := by
  unfold enlist
  split
  · exact h
  · next hn => exact List.nodup_append.mpr ⟨h, by simp, by rintro a ha b hb rfl; simp_all⟩

/-- A place in a list with one more at the end stood in the list or is the last. -/
theorem split_concat {x last : Loc} (h : locs ++ [last] = older ++ x :: newer) :
    (∃ newer', locs = older ++ x :: newer') ∨ (older = locs ∧ x = last) := by
  rcases List.append_eq_append_iff.mp h with ⟨a, ha, hb⟩ | ⟨a, ha, hb⟩
  · cases a with
    | nil => simp_all
    | cons y a =>
      have hlen := congrArg List.length hb
      simp only [List.cons_append, List.length_cons, List.length_append, List.length_nil] at hlen
      omega
  · cases a with
    | nil => simp_all
    | cons y a =>
      rw [List.cons_append, List.cons.injEq] at hb
      exact .inl ⟨a, by rw [ha, hb.1]⟩

/-! ## Steps that keep an account -/

theorem Accounted.start (hs : s.IsPlain) (root : Path) (asked blank : Loc → Prop) :
    Accounted root s asked blank s [] where
  plain := hs
  kept loc e he := ⟨e, he, rfl, fun _ => rfl⟩
  fresh loc hn h := by simp [hn] at h
  recorded loc h := by cases h
  nodup := List.nodup_nil
  ordered older loc newer h := by simp at h

/-- A new entry below the root is listed, or a file that was left blank. -/
theorem Accounted.listed (h : Accounted root s₀ asked blank s locs) (hb : root.IsAbove loc)
    (hn : s₀.at? loc = none) (hs : (s.at? loc).isSome) :
    loc ∈ locs ∨ (blank loc ∧ s.at? loc = some (.file .empty)) :=
  (h.fresh loc hn hs).2.imp_right fun hr =>
    hr.resolve_left fun hup => not_suffix_of_isAbove hb hup.1

theorem Accounted.listed_directory (h : Accounted root s₀ asked blank s locs)
    (hb : root.IsAbove loc) (hn : s₀.at? loc = none) (hs : s.at? loc = some .directory) :
    loc ∈ locs := by
  refine (h.listed hb hn (by simp [hs])).resolve_right fun ⟨_, hfile⟩ => ?_
  rw [hs] at hfile; cases hfile

theorem Accounted.paved (h : Accounted root s₀ asked blank s locs) (ht : Paved root.anchor s t loc)
    (htr : IsTrodden root s loc) : Accounted root s₀ asked blank t locs where
  plain := ht.plain
  kept l e he := by
    obtain ⟨e', he', hrest⟩ := h.kept l e he
    exact ⟨e', ht.at?_of_some he', hrest⟩
  fresh l hn hs := by
    rcases ht.view l with hv | ⟨hl, hnone, hd, hf⟩
    · rw [hv] at hs ⊢
      exact h.fresh l hn hs
    · refine ⟨hf, .inr (.inl ⟨(htr l hl).resolve_right ?_, hd⟩)⟩
      simp [hnone]
  recorded l hl := by
    obtain ⟨hp, hf, hr, hs, ha⟩ := h.recorded l hl
    obtain ⟨e, he⟩ := Option.isSome_iff_exists.mp hs
    exact ⟨hp, hf, hr, by simp [ht.at?_of_some he], ha⟩
  nodup := h.nodup
  ordered := h.ordered

/-- Creating a place leaves the others alone, except for directories down to the root. -/
theorem view_of_placed (ht : Placed p e s t) (ha : p.anchor = root.anchor)
    (htr : IsTrodden root s p.loc.tail) {l : Loc} (hl : l ≠ p.loc) :
    t.at? l = s.at? l ∨ (l <:+ root.loc ∧ s.at? l = none ∧ t.at? l = some .directory ∧
      (pathTo root.anchor l).Fits) := by
  rcases ht.view l hl with hv | ⟨hlp, hnone, hd, hf⟩
  · exact .inl hv
  · refine .inr ⟨(htr l ?_).resolve_right (by simp [hnone]), hnone, hd, ha ▸ hf⟩
    cases hc : p.loc with
    | nil =>
      rw [hc] at hlp hl
      exact absurd (List.suffix_nil.mp hlp) hl
    | cons name rest =>
      rw [hc] at hlp hl
      exact (List.suffix_cons_iff.mp hlp).resolve_left hl

theorem stays_of_placed (ht : Placed p e s t) (ha : p.anchor = root.anchor)
    (htr : IsTrodden root s p.loc.tail) {l : Loc} (hl : l ≠ p.loc) (hs : (s.at? l).isSome) :
    t.at? l = s.at? l := by
  refine (view_of_placed ht ha htr hl).resolve_right fun ⟨_, hnone, _⟩ => ?_
  simp [hnone] at hs

/-- A place may be listed at the end if all new directories above it are listed. -/
theorem Accounted.ordered_enlist (h : Accounted root s₀ asked blank s locs)
    (hup : ∀ dir, root.IsAbove dir → dir <:+ loc → dir ≠ loc → s₀.at? dir = none → dir ∈ locs)
    (older : List Loc) (l : Loc) (newer : List Loc) (hsplit : enlist locs loc = older ++ l :: newer)
    (dir : Loc) (hb : root.IsAbove dir) (hd : dir <:+ l) (hne : dir ≠ l)
    (hn : s₀.at? dir = none) : dir ∈ older := by
  unfold enlist at hsplit
  split at hsplit
  · exact h.ordered older l newer hsplit dir hb hd hne hn
  -- a place listed before keeps what stood before it; before the last stands the whole list
  rcases split_concat hsplit with ⟨newer', hs⟩ | ⟨rfl, rfl⟩
  · exact h.ordered older l newer' hs dir hb hd hne hn
  · exact hup dir hb hd hne hn

section Placed

variable (h : Accounted root s₀ asked blank s locs) (ht : Placed p e s t) (hp : p.IsPlain)
  (ha : p.anchor = root.anchor) (hr : root.loc <:+ p.loc) (htr : IsTrodden root s p.loc.tail)
  (hnew : asked p.loc ∨ s₀.at? p.loc = none)

include h ht ha htr hnew in
theorem Accounted.kept_placed {l : Loc} {e₀ : Entry} (he₀ : s₀.at? l = some e₀) :
    ∃ e', t.at? l = some e' ∧ e'.shape = e₀.shape ∧ (¬ asked l → e' = e₀) := by
  obtain ⟨e', he', hsh, hsame⟩ := h.kept l e₀ he₀
  by_cases hl : l = p.loc
  · subst hl
    refine ⟨e, ht.here, (ht.before e' he').trans hsh, fun hna => ?_⟩
    rcases hnew with hnew | hnew
    · exact absurd hnew hna
    · rw [he₀] at hnew; cases hnew
  · exact ⟨e', by rw [stays_of_placed ht ha htr hl (by simp [he']), he'], hsh, hsame⟩

include h ht ha htr in
theorem Accounted.fresh_placed {l : Loc} (hl : l ≠ p.loc) (hn : s₀.at? l = none)
    (hs : (t.at? l).isSome) : (pathTo root.anchor l).Fits ∧
      (l ∈ locs ∨ (l <:+ root.loc ∧ t.at? l = some .directory) ∨
        (blank l ∧ t.at? l = some (.file .empty))) := by
  rcases view_of_placed ht ha htr hl with hv | ⟨hlr, -, hd, hf⟩
  · rw [hv] at hs ⊢
    exact h.fresh l hn hs
  · exact ⟨hf, .inr (.inl ⟨hlr, hd⟩)⟩

include h ht ha htr in
theorem Accounted.recorded_placed {l : Loc} (hl : l ∈ locs) :
    (pathTo root.anchor l).IsPlain ∧ (pathTo root.anchor l).Fits ∧ root.loc <:+ l ∧
      (t.at? l).isSome ∧ (asked l ∨ s₀.at? l = none) := by
  obtain ⟨hpl, hf, hlr, hs, hask⟩ := h.recorded l hl
  refine ⟨hpl, hf, hlr, ?_, hask⟩
  by_cases hlp : l = p.loc
  · rw [hlp, ht.here]; rfl
  · rwa [stays_of_placed ht ha htr hlp hs]

include h ht hp ha hr htr hnew

/-- A place may be created and listed if it was asked for or is new. -/
theorem Accounted.placed : Accounted root s₀ asked blank t (enlist locs p.loc) := by
  have hback : pathTo root.anchor p.loc = p := by rw [← ha, Path.pathTo_loc]
  refine ⟨ht.plain, fun l e₀ => h.kept_placed ht ha htr hnew, fun l hn hs => ?_, fun l hl => ?_,
    nodup_enlist h.nodup, h.ordered_enlist fun dir hb hd hne hn => ?_⟩
  · by_cases hl : l = p.loc
    · subst hl
      exact ⟨by rw [hback]; exact ht.fits, .inl (mem_enlist.mpr (.inr rfl))⟩
    · obtain ⟨hf, hin⟩ := h.fresh_placed ht ha htr hl hn hs
      exact ⟨hf, hin.imp_left fun hin => mem_enlist.mpr (.inl hin)⟩
  · rcases mem_enlist.mp hl with hl | rfl
    · exact h.recorded_placed ht ha htr hl
    · exact ⟨by rwa [hback], by rw [hback]; exact ht.fits, hr, by simp [ht.here], hnew⟩
  · have habove : t.at? dir = some .directory := ht.plain.above (by simp [ht.here]) hd hne
    rcases view_of_placed ht ha htr hne with hv | ⟨hdr, -⟩
    · exact h.listed_directory hb hn (hv ▸ habove)
    · exact absurd hdr (not_suffix_of_isAbove hb)

omit hp hr in
/-- A file at a blank place may be left empty without being listed. -/
theorem Accounted.blanked (he : e = .file .empty) (hblank : blank p.loc) :
    Accounted root s₀ asked blank t locs := by
  subst he
  have hback : pathTo root.anchor p.loc = p := by rw [← ha, Path.pathTo_loc]
  refine ⟨ht.plain, fun l e₀ => h.kept_placed ht ha htr hnew, fun l hn hs => ?_,
    fun l hl => h.recorded_placed ht ha htr hl, h.nodup, h.ordered⟩
  by_cases hl : l = p.loc
  · subst hl
    exact ⟨by rw [hback]; exact ht.fits, .inr (.inr ⟨hblank, ht.here⟩)⟩
  · exact h.fresh_placed ht ha htr hl hn hs

end Placed

end Scaffold
