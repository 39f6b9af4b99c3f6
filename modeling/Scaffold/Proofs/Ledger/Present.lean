import Scaffold.Proofs.Ledger.Commands
import Scaffold.Proofs.Store.Presence
import Scaffold.Recipe.Basic

/-!
# Ledgers list what is present

On every site and in every store, links and `..` included, each path in a ledger leads to an entry
(`perform_present`, `run_present`): it is recorded only after it was created, and nothing is taken
away afterwards.
-/

namespace Scaffold

open Store

/-- Each path in the ledger leads to an entry. -/
def Workshop.IsPresent {E : Template.Engine} (w : Workshop E) : Prop :=
  ∀ key ∈ w.ledger, w.store.IsPresent (Path.ofString key)

/-- A path that starts at the root and is read back from its text. -/
structure Path.IsFull (p : Path) : Prop where
  anchored : p.anchor ≠ .relative
  isRead : p.IsRead

variable {E : Template.Engine} {site : Site} {w : Workshop E} {p q : Path} {path : String}

theorem Path.IsFull.ofString_text (h : p.IsFull) : Path.ofString p.text = p :=
  Path.ofString_text h.isRead

theorem Path.IsFull.child (h : p.IsFull) (text : String) : (p.child text).IsFull := by
  refine ⟨?_, h.isRead.child text⟩
  unfold Path.child
  cases ha : (Path.ofString text).isAnchored with
  | true =>
    rw [Path.join_of_anchored ha]
    simpa [Path.isAnchored] using ha
  | false =>
    rw [Path.join_of_not_anchored ha]
    exact h.anchored

theorem Path.IsFull.of_mem_ancestors (h : p.IsFull) (hq : q ∈ p.ancestors) : q.IsFull := by
  obtain ⟨ha, hn, -⟩ := Path.mem_ancestors.mp hq
  exact ⟨ha ▸ h.anchored, fun name hm => h.isRead name (hn.subset hm)⟩

theorem Workshop.IsPresent.store {s : Store} (h : w.IsPresent) (hk : w.store.Keeps s) :
    { w with store := s }.IsPresent := fun key hkey => hk.present (h key hkey)

theorem Workshop.IsPresent.record (h : w.IsPresent) (hp : p.IsFull) (hin : w.store.IsPresent p) :
    (w.record p).IsPresent := by
  intro key hkey
  rw [record_store]
  unfold Workshop.record at hkey
  split at hkey
  · exact h key hkey
  · rcases List.mem_append.mp hkey with hold | hnew
    · exact h key hold
    · rw [List.mem_singleton.mp hnew, hp.ofString_text]
      exact hin

theorem createRecorded_present (h : w.IsPresent) (hp : p.IsFull) :
    (w.createRecorded p).2.IsPresent := by
  have hkeeps := makeDirs_keeps w.store p
  have hmade := @makeDirs_present w.store p
  unfold Workshop.createRecorded
  split
  · next s hs =>
    rw [hs] at hkeeps hmade
    exact (h.store hkeeps).record hp (hmade rfl)
  · next f s hs =>
    rw [hs] at hkeeps
    exact h.store hkeeps

theorem createAll_present (h : w.IsPresent) {ps : List Path} (hps : ∀ p ∈ ps, p.IsFull) :
    (w.createAll ps).2.IsPresent := by
  induction ps generalizing w with
  | nil => exact h
  | cons p ps ih =>
    have hstep := createRecorded_present h (hps p List.mem_cons_self)
    unfold Workshop.createAll
    split
    · next w₁ hw =>
      rw [hw] at hstep
      exact ih hstep fun q hq => hps q (List.mem_cons_of_mem _ hq)
    · next hw => rw [hw] at hstep; exact hstep

theorem mem_missingAmong {root : Path} {s : Store} {ps missing : List Path}
    (h : Site.missingAmong root s ps = .ok missing) (hq : q ∈ missing) :
    q ∈ ps ∧ root ∈ q.ancestors ∧ s.exists? q = .ok false := by
  induction ps generalizing missing with
  | nil => cases h; cases hq
  | cons p outer ih =>
    unfold Site.missingAmong at h
    split at h
    · cases h; cases hq
    next hend =>
    have hbelow : root ∈ p.ancestors := by
      rw [not_or, Bool.not_eq_true', ← Bool.not_eq_true, List.contains_iff_mem] at hend
      exact Decidable.not_not.mp hend.2
    cases hex : s.exists? p with
    | error f => rw [hex] at h; cases h
    | ok there =>
      cases hm : Site.missingAmong root s outer with
      | error f => cases there <;> simp_all [bind, Except.bind]
      | ok rest =>
        cases there with
        | true => simp_all [bind, Except.bind]
        | false =>
          simp only [hex, hm, bind, Except.bind, Bool.false_eq_true, if_false,
            Except.ok.injEq] at h
          subst h
          rcases List.mem_append.mp hq with hq | hq
          · exact (ih hm hq).imp_left fun h => List.mem_cons_of_mem _ h
          · rw [List.mem_singleton.mp hq]
            exact ⟨List.mem_cons_self, hbelow, hex⟩

theorem ensureParents_present (h : w.IsPresent) (hp : p.IsFull) :
    (site.ensureParents w p).2.IsPresent := by
  unfold Site.ensureParents
  split
  · exact h
  · next missing hm =>
    exact createAll_present h fun q hq => hp.of_mem_ancestors (mem_missingAmong hm hq).1

/-! ## Commands and scripts -/

section Commands

variable (hroot : site.root.IsFull)

include hroot

theorem writeFile_present (h : w.IsPresent) (path : String) (content : Content) :
    (site.writeFile w path content).2.IsPresent := by
  have hp : (site.locate path).IsFull := hroot.child path
  have hup := @ensureParents_present E site w _ h hp
  unfold Site.writeFile
  simp only
  split
  · next hw => rw [hw] at hup; exact hup
  · next w₁ hw =>
    rw [hw] at hup
    have hkeeps := writeBelow_keeps w₁.store (site.locate path) content
    have hmade := @writeBelow_present w₁.store (site.locate path) content
    split
    · next hs => rw [hs] at hkeeps; exact hup.store hkeeps
    · next hs =>
      rw [hs] at hkeeps hmade
      exact (hup.store hkeeps).record hp (hmade (.inl rfl))

theorem createDirectory_present (h : w.IsPresent) (path : String) :
    (site.createDirectory w path).2.IsPresent := by
  have hp : (site.locate path).IsFull := hroot.child path
  have hup := @ensureParents_present E site w _ h hp
  unfold Site.createDirectory
  simp only
  split
  · next hw => rw [hw] at hup; exact hup
  · next w₁ hw =>
    rw [hw] at hup
    have hlast := createRecorded_present hup hp
    split
    · next he => rw [he] at hlast; exact hlast
    · next he => rw [he] at hlast; exact hlast

theorem perform_present (h : w.IsPresent) (c : Command) : (site.perform w c).2.IsPresent := by
  have h' : { w with library := site.libraryAfter w c }.IsPresent := h
  cases ho : site.order? w c with
  | none =>
    obtain ⟨r, hp, -⟩ := perform_of_no_order ho
    rw [hp]
    exact h'
  | some order =>
    obtain ⟨path, x⟩ := order
    rw [perform_of_order ho, wrote_snd]
    cases x with
    | file content => exact writeFile_present hroot h' path content
    | directory => exact createDirectory_present hroot h' path

/-- Whatever a script does, each path that it lists is present in the end. -/
theorem run_present (h : w.IsPresent) (script : Script) : (script.run site w).2.IsPresent := by
  induction script generalizing w with
  | done => exact h
  | fail f => exact h
  | call c next ih => exact ih _ (perform_present hroot h c)

end Commands

end Scaffold
