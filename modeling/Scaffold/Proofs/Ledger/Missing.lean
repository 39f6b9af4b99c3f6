import Mathlib.Data.List.Induction
import Scaffold.Proofs.Ledger.Exact
import Scaffold.Proofs.Path.Fitting
import Scaffold.Proofs.Store.Presence

/-!
# Missing directories

The search for what is missing above a path goes outwards and ends at the first directory that is
there. In a plain store nothing missing lies above it, so the search passes nothing over
(`missingAncestors_eq`). The directories found are made from the outermost inwards, and below the
root each step makes just the next one (`createAll_makesOnly`).
-/

namespace Scaffold

open Store
open Scaffold.Path (pathTo)

/-- Nothing is there under a path; what has a NUL in it names nothing. -/
def Store.Lacks (s : Store) (p : Path) : Prop := p.hasNul = true ∨ s.at? p.loc = none

instance (s : Store) (p : Path) : Decidable (s.Lacks p) :=
  inferInstanceAs (Decidable (p.hasNul = true ∨ s.at? p.loc = none))

/-- A path strictly below the root under which nothing is there. -/
def IsMissing (root : Path) (s : Store) (p : Path) : Prop := root ∈ p.ancestors ∧ s.Lacks p

instance (root : Path) (s : Store) (p : Path) : Decidable (IsMissing root s p) :=
  inferInstanceAs (Decidable (root ∈ p.ancestors ∧ s.Lacks p))

variable {root p q r : Path} {s t u : Store} {E : Template.Engine}
  {w : Workshop E} {ps made missing : List Path}

namespace Path

theorem IsShort.of_mem_ancestors (h : p.IsShort) (ha : p.anchor ≠ .relative)
    (hq : q ∈ p.ancestors) : q.IsShort := by
  obtain ⟨hanchor, hpre, -⟩ := mem_ancestors.mp hq
  exact ⟨Nat.le_trans (size_text_le hanchor ha hpre) h.1,
    fun name hn => h.2 name (hpre.subset hn)⟩

theorem mem_ancestors_trans (h : q ∈ p.ancestors) (hr : r ∈ q.ancestors) : r ∈ p.ancestors := by
  obtain ⟨ha, hpre, hne⟩ := mem_ancestors.mp h
  obtain ⟨ha', hpre', hne'⟩ := mem_ancestors.mp hr
  refine mem_ancestors.mpr ⟨ha'.trans ha, hpre'.trans hpre, fun he => hne' ?_⟩
  exact hpre'.eq_of_length_le (he ▸ hpre.length_le)

theorem not_mem_ancestors_self (p : Path) : p ∉ p.ancestors := fun h => (mem_ancestors.mp h).2.2 rfl

theorem ancestors_pairwise (p : Path) : p.ancestors.Pairwise fun q r => r ∈ q.ancestors := by
  obtain ⟨anchor, names⟩ := p
  induction names using List.reverseRecOn with
  | nil => exact .nil
  | append_singleton names name ih =>
    rw [ancestors_concat]
    exact .cons (fun _ hr => hr) ih

end Path

theorem Store.Lacks.of_above (hs : s.IsPlain) (h : s.Lacks q) (hq : q ∈ p.ancestors) :
    s.Lacks p := by
  obtain ⟨-, hpre, -⟩ := Path.mem_ancestors.mp hq
  obtain ⟨-, hsuf, hne⟩ := Path.mem_ancestors_iff_loc.mp hq
  rcases h with hnul | hnone
  · refine .inl ?_
    obtain ⟨name, hn, hc⟩ := List.any_eq_true.mp hnul
    exact List.any_eq_true.mpr ⟨name, hpre.subset hn, hc⟩
  · exact .inr (hs.none_below (by simp [hnone]) hsuf hne)

/-- What is missing has only missing paths below it. -/
theorem IsMissing.of_above (hs : s.IsPlain) (h : IsMissing root s q) (hq : q ∈ p.ancestors) :
    IsMissing root s p :=
  ⟨Path.mem_ancestors_trans hq h.1, h.2.of_above hs hq⟩

theorem exists?_of_isShort (hs : s.IsPlain) (hp : p.IsPlain) (h : p.IsShort) :
    s.exists? p = .ok (!decide (s.Lacks p)) := by
  cases hnul : p.hasNul with
  | true =>
    have hlacks : s.Lacks p := .inl hnul
    rw [exists?, look, probe, if_pos hnul]
    simp [hlacks, Except.map]
  | false =>
    rw [exists?_of_fits hs hp ⟨hnul, h.1, h.2⟩]
    simp only [Lacks, hnul, Bool.false_eq_true, false_or]
    cases s.at? p.loc <;> rfl

/-! ## The search -/

/-- Where a property of a member holds of all before it too, its first members are all that have
it. -/
theorem takeWhile_eq_filter {α : Type} {P : α → Bool} {l : List α}
    (h : l.Pairwise fun a b => P b = true → P a = true) : l.takeWhile P = l.filter P := by
  induction l with
  | nil => rfl
  | cons a l ih =>
    obtain ⟨hfirst, hrest⟩ := List.pairwise_cons.mp h
    by_cases ha : P a = true
    · rw [List.takeWhile_cons_of_pos ha, List.filter_cons_of_pos ha, ih hrest]
    · rw [List.takeWhile_cons_of_neg ha, eq_comm, List.filter_eq_nil_iff]
      exact List.forall_mem_cons.mpr ⟨ha, fun b hb hPb => ha (hfirst b hb hPb)⟩

/-- The search finds what is missing up to the first path that is not. -/
theorem missingAmong_eq (h : ∀ q ∈ ps, s.exists? q = .ok (!decide (s.Lacks q))) :
    Site.missingAmong root s ps = .ok (ps.takeWhile fun q => IsMissing root s q).reverse := by
  induction ps with
  | nil => rfl
  | cons q ps ih =>
    obtain ⟨hq, hps⟩ := List.forall_mem_cons.mp h
    have hend : (q = root ∨ (!q.ancestors.contains root) = true) ↔ root ∉ q.ancestors := by
      rw [Bool.not_eq_true', ← Bool.not_eq_true, List.contains_iff_mem]
      exact ⟨fun h => h.elim (fun e => e ▸ q.not_mem_ancestors_self) id, .inr⟩
    unfold Site.missingAmong
    by_cases hroot : root ∈ q.ancestors
    · rw [if_neg (fun h => hend.mp h hroot), hq, ih hps]
      by_cases hlacks : s.Lacks q
      · rw [List.takeWhile_cons_of_pos (by simpa using ⟨hroot, hlacks⟩), List.reverse_cons]
        simp [hlacks, bind, Except.bind]
      · rw [List.takeWhile_cons_of_neg (by simpa using fun h : IsMissing root s q => hlacks h.2)]
        simp [hlacks, bind, Except.bind]
    · rw [if_pos (hend.mpr hroot),
        List.takeWhile_cons_of_neg (by simpa using fun h : IsMissing root s q => hroot h.1)]
      rfl

theorem missingAncestors_eq (hs : s.IsPlain) (hp : p.IsPlain) (h : p.IsShort) :
    Site.missingAncestors root s p =
      .ok (p.ancestors.filter fun q => IsMissing root s q).reverse := by
  have hasked : ∀ q ∈ p.ancestors, s.exists? q = .ok (!decide (s.Lacks q)) := fun q hq =>
    exists?_of_isShort hs (hp.of_mem_ancestors hq) (h.of_mem_ancestors hp.anchored hq)
  have hclosed : p.ancestors.Pairwise fun q r =>
      decide (IsMissing root s r) = true → decide (IsMissing root s q) = true :=
    p.ancestors_pairwise.imp fun hr => by simpa using fun h => h.of_above hs hr
  rw [Site.missingAncestors, missingAmong_eq hasked, takeWhile_eq_filter hclosed]

theorem missing_pairwise (root : Path) (s : Store) (p : Path) :
    (p.ancestors.filter fun q => IsMissing root s q).reverse.Pairwise fun q r =>
      q ∈ r.ancestors := by
  rw [List.pairwise_reverse]
  exact p.ancestors_pairwise.filter _

/-! ## Making what is missing -/

/-- From one store to another only directories were made, and below the root only these. -/
structure MakesOnly (root : Path) (s t : Store) (made : List Path) : Prop where
  plain : t.IsPlain
  view : ∀ l, t.at? l = s.at? l ∨ (s.at? l = none ∧ t.at? l = some .directory ∧
    (root.IsAbove l → pathTo root.anchor l ∈ made))

theorem MakesOnly.refl (hs : s.IsPlain) (root : Path) : MakesOnly root s s [] :=
  ⟨hs, fun _ => .inl rfl⟩

theorem MakesOnly.mono (h : MakesOnly root s t made) (hsub : made ⊆ missing) :
    MakesOnly root s t missing where
  plain := h.plain
  view l := (h.view l).imp_right fun ⟨hnone, hdir, hlisted⟩ =>
    ⟨hnone, hdir, fun hb => hsub (hlisted hb)⟩

theorem MakesOnly.at?_of_some (h : MakesOnly root s t made) {l : Loc} {e : Entry}
    (he : s.at? l = some e) : t.at? l = some e := by
  rcases h.view l with hv | ⟨hnone, -⟩
  · rw [hv, he]
  · rw [he] at hnone
    cases hnone

theorem MakesOnly.trans (h : MakesOnly root s t made) (h' : MakesOnly root t u ps) :
    MakesOnly root s u (made ++ ps) where
  plain := h'.plain
  view l := by
    rcases h'.view l with hv | ⟨hnone, hdir, hlisted⟩
    · rw [hv]
      exact (h.mono (List.subset_append_left _ _)).view l
    · refine .inr ⟨?_, hdir, fun hb => List.mem_append_right _ (hlisted hb)⟩
      cases hs : s.at? l with
      | none => rfl
      | some e =>
        rw [h.at?_of_some hs] at hnone
        cases hnone

/-- Where nothing is missing between the root and a directory, making it makes nothing else below
the root. -/
theorem createRecorded_makesOnly (hs : w.store.IsPlain) (hp : p.IsPlain)
    (ha : p.anchor = root.anchor)
    (hup : ∀ q ∈ p.ancestors, root ∈ q.ancestors → (w.store.at? q.loc).isSome) :
    MakesOnly root w.store (w.createRecorded p).2.store [p] ∧
      ((w.createRecorded p).1 = .ok () →
        (w.createRecorded p).2.store.at? p.loc = some .directory) := by
  have hpaves : ∀ t, Paved p.anchor w.store t p.loc → MakesOnly root w.store t [p] := by
    refine fun t ht => ⟨ht.plain, fun l => (ht.view l).imp_right fun ⟨hl, hnone, hdir, _⟩ =>
      ⟨hnone, hdir, fun hb => ?_⟩⟩
    by_cases hlast : l = p.loc
    · rw [hlast, ← ha, Path.pathTo_loc]
      exact List.mem_singleton_self p
    · have hq : pathTo root.anchor l ∈ p.ancestors :=
        Path.mem_ancestors_iff_loc.mpr ⟨ha.symm, by rwa [Path.loc_pathTo], by rwa [Path.loc_pathTo]⟩
      have hthere := hup _ hq (Path.root_mem_ancestors.mpr hb)
      rw [Path.loc_pathTo, hnone] at hthere
      cases hthere
  have hmade := makeDirs_made hs hp
  unfold Workshop.createRecorded
  split
  · next t ht =>
    rw [ht] at hmade
    have hplaced := hmade.ok rfl
    rw [record_store]
    exact ⟨hpaves t hplaced.paved, fun _ => hplaced.here⟩
  · next f t ht =>
    rw [ht] at hmade
    exact ⟨hpaves t ((hmade.error f rfl).mono (List.tail_suffix _)), nofun⟩

/-- The missing directories are made one after the other, each by a step of its own. -/
theorem createAll_makesOnly (hs : w.store.IsPlain) (hp : p.IsPlain)
    (hmade : made <+: (p.ancestors.filter fun q => IsMissing root w.store q).reverse) :
    MakesOnly root w.store (w.createAll made).2.store made ∧
      ((w.createAll made).1 = .ok () →
        ∀ q ∈ made, (w.createAll made).2.store.at? q.loc = some .directory) := by
  induction made using List.reverseRecOn with
  | nil => exact ⟨.refl hs root, nofun⟩
  | append_singleton made q ih =>
    obtain ⟨rest, hlist⟩ := hmade
    rw [List.append_assoc, List.singleton_append] at hlist
    obtain ⟨hsofar, hthere⟩ := ih ⟨q :: rest, hlist⟩
    have hmem : ∀ r, r ∈ made ++ q :: rest ↔ r ∈ p.ancestors ∧ IsMissing root w.store r := by
      intro r
      rw [hlist, List.mem_reverse, List.mem_filter, decide_eq_true_eq]
    obtain ⟨hq, hroot, -⟩ := (hmem q).mp (by simp)
    rw [createAll_concat]
    split
    · next w₁ hw =>
      rw [hw] at hsofar hthere
      -- What was missing on the way to this directory stands before it in the list.
      have hup : ∀ r ∈ q.ancestors, root ∈ r.ancestors → (w₁.store.at? r.loc).isSome := by
        intro r hr hb
        cases hat : w.store.at? r.loc with
        | some e => rw [hsofar.at?_of_some hat]; rfl
        | none =>
          have hin := (hmem r).mpr ⟨Path.mem_ancestors_trans hq hr, hb, .inr hat⟩
          have horder := hlist ▸ missing_pairwise root w.store p
          obtain ⟨-, hafter, -⟩ := List.pairwise_append.mp horder
          rcases List.mem_append.mp hin with hin | hin
          · rw [hthere rfl r hin]; rfl
          · rcases List.mem_cons.mp hin with rfl | hin
            · exact absurd hr r.not_mem_ancestors_self
            · have hback := (List.pairwise_cons.mp hafter).1 r hin
              exact absurd (Path.mem_ancestors_trans hback hr) r.not_mem_ancestors_self
      have hanchor : q.anchor = root.anchor := (Path.mem_ancestors.mp hroot).1.symm
      obtain ⟨hstep, hlast⟩ := createRecorded_makesOnly hsofar.plain (hp.of_mem_ancestors hq)
        hanchor hup
      refine ⟨hsofar.trans hstep, fun hok r hr => ?_⟩
      rcases List.mem_append.mp hr with hr | hr
      · exact hstep.at?_of_some (hthere rfl r hr)
      · rw [List.mem_singleton.mp hr]
        exact hlast hok
    · next f w₁ hw =>
      rw [hw] at hsofar
      exact ⟨hsofar.mono (List.subset_append_left _ _), nofun⟩

/-- **What is missing is found, and making it makes nothing else.** In a plain store the search for
the missing directories above a path gives an answer: its ancestors strictly below the root under
which nothing is there, each once and the outermost first. There are none above the root itself or
a path outside it. However far these directories are made in their order, and whether that goes
through or not, the directories that are new below the root are among those whose turn has come. -/
theorem missingAncestors_exact (root : Path) (hs : s.IsPlain) (hp : p.IsPlain) (h : p.IsShort) :
    ∃ missing, Site.missingAncestors root s p = .ok missing ∧
      (∀ q, q ∈ missing ↔ q ∈ p.ancestors ∧ root ∈ q.ancestors ∧ s.Lacks q) ∧
      missing.Nodup ∧ missing.Pairwise (fun q r => q ∈ r.ancestors) ∧
      (p = root ∨ root ∉ p.ancestors → missing = []) ∧
      ∀ (w : Workshop E) (made : List Path), w.store = s → made <+: missing →
        MakesOnly root s (w.createAll made).2.store made ∧
          ((w.createAll made).1 = .ok () →
            ∀ q ∈ made, (w.createAll made).2.store.at? q.loc = some .directory) := by
  have hmem : ∀ q, q ∈ (p.ancestors.filter fun q => IsMissing root s q).reverse ↔
      q ∈ p.ancestors ∧ root ∈ q.ancestors ∧ s.Lacks q := by
    intro q
    rw [List.mem_reverse, List.mem_filter, decide_eq_true_eq]
    rfl
  have horder := missing_pairwise root s p
  refine ⟨_, missingAncestors_eq hs hp h, hmem, ?_, horder, fun hout => ?_, ?_⟩
  · refine List.Pairwise.imp (fun hq he => ?_) horder
    exact Path.not_mem_ancestors_self _ (he ▸ hq)
  · rw [List.eq_nil_iff_forall_not_mem]
    intro q hq
    obtain ⟨hup, hroot, -⟩ := (hmem q).mp hq
    have hin := Path.mem_ancestors_trans hup hroot
    rcases hout with rfl | hout
    · exact p.not_mem_ancestors_self hin
    · exact hout hin
  · rintro w made rfl hmade
    exact createAll_makesOnly hs hp hmade

def samplePath : Path := Path.ofString "/srv/app/src/db/client.js"

/-- The root is missing too, and is made along with the first directory, but not listed. -/
theorem missingAncestors_exact_of_absent_root :
    sampleStore.IsPlain ∧ samplePath.IsPlain ∧ samplePath.IsShort ∧
      ∃ missing, missing = [Path.ofString "/srv/app/src", Path.ofString "/srv/app/src/db"] ∧
        Site.missingAncestors sampleSite.root sampleStore samplePath = .ok missing ∧
        (∀ q, q ∈ missing ↔
          q ∈ samplePath.ancestors ∧ sampleSite.root ∈ q.ancestors ∧ sampleStore.Lacks q) ∧
        MakesOnly sampleSite.root sampleStore
          ((⟨sampleStore, .new none, []⟩ : Workshop Template.engine).createAll missing).2.store
          missing := by
  have hp : samplePath.IsPlain := Path.ofString_isPlain (by decide) (by decide)
  have hshort : samplePath.IsShort := by decide
  obtain ⟨missing, hfound, hmem, -, -, -, hmakes⟩ :=
    missingAncestors_exact sampleSite.root sampleStore_isPlain hp hshort
  have hlist : Site.missingAncestors sampleSite.root sampleStore samplePath =
      .ok [Path.ofString "/srv/app/src", Path.ofString "/srv/app/src/db"] := by decide
  have hmissing := Except.ok.inj (hfound.symm.trans hlist)
  exact ⟨sampleStore_isPlain, hp, hshort, missing, hmissing, hfound, hmem,
    (hmakes ⟨sampleStore, .new none, []⟩ missing rfl (List.prefix_refl _)).1⟩

end Scaffold
