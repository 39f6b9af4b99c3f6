import Scaffold.Proofs.Ledger.Accounted
import Scaffold.Site

/-!
# Making parents

`ensureParents` works from the outermost missing directory inwards. `ensureParents_cons` says this
as a recursion over the place: make sure of the parents of the directory above, then of that
directory. On that recursion an account is kept (`ensureParents_kept`), and in the end nothing below
the root is missing on the way.
-/

namespace Scaffold

open Store
open Scaffold.Path (pathTo)

/-- The text that stands for a place in a ledger. -/
def label (anchor : Anchor) (loc : Loc) : String := (pathTo anchor loc).text

/-- A workshop whose ledger accounts for what was done since `s₀`. -/
def Workshop.Audited {E : Template.Engine} (root : Path) (s₀ : Store) (asked blank : Loc → Prop)
    (w : Workshop E) : Prop :=
  ∃ locs, w.ledger = locs.map (label root.anchor) ∧ Accounted root s₀ asked blank w.store locs

variable {E : Template.Engine} {site : Site} {root p : Path} {s₀ s t : Store}
  {asked blank : Loc → Prop} {w : Workshop E}
  {locs : List Loc} {loc dir : Loc} {e : Entry} {name : String}

theorem record_ledger (hl : w.ledger = locs.map (label root.anchor)) (hp : p.IsPlain)
    (ha : p.anchor = root.anchor) (hlocs : ∀ l ∈ locs, (pathTo root.anchor l).IsPlain) :
    (w.record p).ledger = (enlist locs p.loc).map (label root.anchor) := by
  have hback : pathTo root.anchor p.loc = p := by rw [← ha, Path.pathTo_loc]
  have hlabel : label root.anchor p.loc = p.text := by rw [label, hback]
  have hmem : p.text ∈ w.ledger ↔ p.loc ∈ locs := by
    rw [hl, List.mem_map]
    constructor
    · rintro ⟨l, hin, ht⟩
      rw [← hlabel] at ht
      have := (Path.text_pathTo_inj (hlocs l hin) (by rwa [hback])).mp ht
      exact this ▸ hin
    · exact fun hin => ⟨p.loc, hin, hlabel⟩
  unfold Workshop.record enlist
  simp only [List.contains_iff_mem, hmem]
  split
  · exact hl
  · simp [hl, hlabel]

theorem record_store (w : Workshop E) (p : Path) : (w.record p).store = w.store := by
  unfold Workshop.record; split <;> rfl

/-- Creating a place and recording it keeps an account. -/
theorem Workshop.Audited.placed (h : w.Audited root s₀ asked blank) (ht : Placed p e w.store t)
    (hp : p.IsPlain) (ha : p.anchor = root.anchor) (hr : root.loc <:+ p.loc)
    (htr : IsTrodden root w.store p.loc.tail) (hnew : asked p.loc ∨ s₀.at? p.loc = none) :
    ({ w with store := t }.record p).Audited root s₀ asked blank := by
  obtain ⟨locs, hl, hacc⟩ := h
  refine ⟨enlist locs p.loc, ?_, ?_⟩
  · exact record_ledger hl hp ha fun l hin => (hacc.recorded l hin).1
  · rw [record_store]
    exact hacc.placed ht hp ha hr htr hnew

theorem Workshop.Audited.blanked (h : w.Audited root s₀ asked blank)
    (ht : Placed p (.file .empty) w.store t) (ha : p.anchor = root.anchor)
    (htr : IsTrodden root w.store p.loc.tail) (hnew : asked p.loc ∨ s₀.at? p.loc = none)
    (hblank : blank p.loc) : { w with store := t }.Audited root s₀ asked blank := by
  obtain ⟨locs, hl, hacc⟩ := h
  exact ⟨locs, hl, hacc.blanked ht ha htr hnew rfl hblank⟩

theorem Workshop.Audited.paved (h : w.Audited root s₀ asked blank)
    (ht : Paved root.anchor w.store t loc) (htr : IsTrodden root w.store loc) :
    { w with store := t }.Audited root s₀ asked blank := by
  obtain ⟨locs, hl, hacc⟩ := h
  exact ⟨locs, hl, hacc.paved ht htr⟩

theorem Workshop.Audited.plain (h : w.Audited root s₀ asked blank) : w.store.IsPlain :=
  h.elim fun _ hacc => hacc.2.plain

theorem Workshop.Audited.absent (h : w.Audited root s₀ asked blank) (hn : w.store.at? loc = none) :
    s₀.at? loc = none := by
  obtain ⟨locs, -, hacc⟩ := h
  cases he : s₀.at? loc with
  | none => rfl
  | some e =>
    obtain ⟨e', he', -⟩ := hacc.kept loc e he
    rw [hn] at he'; cases he'

theorem createRecorded_kept (h : w.Audited root s₀ asked blank) (hp : p.IsPlain)
    (ha : p.anchor = root.anchor) (hr : root.loc <:+ p.loc)
    (htr : IsTrodden root w.store p.loc.tail)
    (hnew : p.hasNul = false → asked p.loc ∨ s₀.at? p.loc = none) :
    (w.createRecorded p).2.Audited root s₀ asked blank ∧
      ((w.createRecorded p).1 = .ok () →
        ((w.createRecorded p).2.store.at? p.loc).isSome) := by
  have hmade := makeDirs_made h.plain hp
  unfold Workshop.createRecorded
  split
  · next t ht =>
    rw [ht] at hmade
    have hplaced := hmade.ok rfl
    refine ⟨h.placed hplaced hp ha hr htr (hnew hplaced.fits.noNul), fun _ => ?_⟩
    rw [record_store]
    simp [hplaced.here]
  · next f t ht =>
    rw [ht] at hmade
    have hpaved := hmade.error f rfl
    rw [ha] at hpaved
    exact ⟨h.paved hpaved htr, fun h => (nomatch h)⟩

theorem createAll_concat (w : Workshop E) (ps : List Path) (p : Path) :
    w.createAll (ps ++ [p]) = match w.createAll ps with
      | (.ok (), w) => w.createRecorded p
      | (.error f, w) => (.error f, w) := by
  induction ps generalizing w with
  | nil =>
    simp only [List.nil_append, Workshop.createAll]
    split <;> simp_all
  | cons q ps ih =>
    simp only [List.cons_append, Workshop.createAll]
    cases w.createRecorded q with
    | mk r w =>
      cases r with
      | ok _ => exact ih w
      | error f => rfl

theorem ensureParents_nil (site : Site) (w : Workshop E) (anchor : Anchor) :
    site.ensureParents w (pathTo anchor []) = (.ok (), w) := rfl

/-- Parents are made for the directory above first, then that directory, unless it is there or not
below the root. -/
theorem ensureParents_cons (site : Site) (w : Workshop E) (name : String) (dir : Loc) :
    site.ensureParents w (pathTo site.root.anchor (name :: dir)) =
      if site.root.IsAbove dir then
        match w.store.exists? (pathTo site.root.anchor dir) with
        | .error f => (.error f, w)
        | .ok true => (.ok (), w)
        | .ok false => match site.ensureParents w (pathTo site.root.anchor dir) with
          | (.ok (), w) => w.createRecorded (pathTo site.root.anchor dir)
          | (.error f, w) => (.error f, w)
      else (.ok (), w) := by
  have hup : (pathTo site.root.anchor (name :: dir)).ancestors =
      pathTo site.root.anchor dir :: (pathTo site.root.anchor dir).ancestors := by
    simp [pathTo, Path.ancestors_concat]
  have hend : (pathTo site.root.anchor dir = site.root ∨
      (!(pathTo site.root.anchor dir).ancestors.contains site.root) = true) ↔
        ¬ site.root.IsAbove dir := by
    rw [Path.pathTo_eq_root, Bool.not_eq_true', ← Bool.not_eq_true, List.contains_iff_mem,
      Path.root_mem_ancestors]
    exact ⟨fun h => h.elim (fun e hb => hb.2 e.symm) id, .inr⟩
  simp only [Site.ensureParents, Site.missingAncestors, hup, Site.missingAmong]
  by_cases hb : site.root.IsAbove dir
  · rw [if_pos hb, if_neg (by rw [hend]; exact not_not_intro hb)]
    cases w.store.exists? (pathTo site.root.anchor dir) with
    | error f => rfl
    | ok there =>
      cases there with
      | true => rfl
      | false =>
        cases hm : Site.missingAmong site.root w.store (pathTo site.root.anchor dir).ancestors with
        | error f => simp [bind, Except.bind]
        | ok rest => simp [bind, Except.bind, createAll_concat]
  · rw [if_neg hb, if_pos (hend.mpr hb)]
    rfl

/-! ## Parents on a plain store -/

theorem suffix_of_not_isAbove (hr : root.loc <:+ name :: dir) (hb : ¬ root.IsAbove dir) :
    dir <:+ root.loc := by
  rcases List.suffix_cons_iff.mp hr with he | hd
  · rw [he]
    exact List.suffix_cons name dir
  · by_cases he : root.loc = dir
    · exact he ▸ List.suffix_rfl
    · exact absurd ⟨hd, he⟩ hb

theorem isTrodden_of_suffix (h : loc <:+ root.loc) : IsTrodden root s loc :=
  fun _ hd => .inl (hd.trans h)

theorem isTrodden_of_isSome (hs : s.IsPlain) (h : (s.at? loc).isSome) : IsTrodden root s loc := by
  intro dir hd
  by_cases hne : dir = loc
  · exact .inr (hne ▸ h)
  · exact .inr (by rw [hs.above h hd hne]; rfl)

/-- Making parents keeps an account, and if it goes through nothing is missing on the way. -/
theorem ensureParents_kept (h : w.Audited site.root s₀ asked blank)
    (hp : (pathTo site.root.anchor loc).IsPlain) (hr : site.root.loc <:+ loc) :
    (site.ensureParents w (pathTo site.root.anchor loc)).2.Audited site.root s₀ asked blank ∧
      ((site.ensureParents w (pathTo site.root.anchor loc)).1 = .ok () →
        IsTrodden site.root (site.ensureParents w (pathTo site.root.anchor loc)).2.store
          loc.tail) := by
  induction loc with
  | nil =>
    rw [ensureParents_nil]
    exact ⟨h, fun _ => isTrodden_of_suffix List.nil_suffix⟩
  | cons name dir ih =>
    have hdir := hp.pathTo_suffix (List.suffix_cons name dir)
    rw [ensureParents_cons]
    split
    · next hb =>
      split
      · exact ⟨h, fun h => (nomatch h)⟩
      · next hex =>
        have hthere := exists?_true h.plain hdir hex
        rw [Path.loc_pathTo] at hthere
        exact ⟨h, fun _ => isTrodden_of_isSome h.plain hthere⟩
      · next hex =>
        obtain ⟨hkept, htr⟩ := ih hdir hb.1
        split
        · next w₁ hw =>
          rw [hw] at hkept htr
          have hnew : (pathTo site.root.anchor dir).hasNul = false →
              asked dir ∨ s₀.at? dir = none := by
            intro hnul
            have hnone := exists?_false h.plain hdir hex hnul
            rw [Path.loc_pathTo] at hnone
            exact .inr (h.absent hnone)
          obtain ⟨hafter, hsome⟩ := createRecorded_kept hkept hdir rfl (by simpa using hb.1)
            (by simpa using htr rfl) (by simpa using hnew)
          refine ⟨hafter, fun hok => isTrodden_of_isSome hafter.plain ?_⟩
          simpa using hsome hok
        · next f w₁ hw =>
          rw [hw] at hkept
          exact ⟨hkept, fun h => (nomatch h)⟩
    · -- the search ends at the root or above it, where nothing has to be recorded
      next hb =>
      exact ⟨h, fun _ => isTrodden_of_suffix (suffix_of_not_isAbove hr hb)⟩

end Scaffold
