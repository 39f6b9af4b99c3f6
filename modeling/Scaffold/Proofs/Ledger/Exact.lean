import Scaffold.Proofs.Ledger.Commands
import Scaffold.Template.Render

/-!
# Ledgers are exact

After any commands on a fresh workshop, failed or not, the ledger is exact (`ExactLedger`): it lists
only what is there and all that is new below the root, each path once and a new directory before
what lies in it. One thing escapes it: a file that was opened for a text without a form in UTF-8 is
there, empty, and not listed. Main statement: `ledger_exact`.
-/

namespace Scaffold

open Store
open Scaffold.Path (pathTo)

variable {E : Template.Engine}

/-- Carries out commands one after the other, whatever becomes of each. -/
def Site.performAll (site : Site) (w : Workshop E) (cs : List Command) : Workshop E :=
  cs.foldl (fun w c => (site.perform w c).2) w

/-- A place that one of the commands was to write to in vain. -/
def Site.LeavesBlank (site : Site) (w : Workshop E) (cs : List Command) (loc : Loc) : Prop :=
  ∃ before c after path, cs = before ++ c :: after ∧
    site.blank? (site.performAll w before) c = some path ∧ (site.locate path).loc = loc

/-- A ledger that fits what happened on a site since `s₀`. -/
structure ExactLedger (root : Path) (s₀ : Store) (blank : Loc → Prop) (w : Workshop E) : Prop where
  nodup : w.ledger.Nodup
  /-- Every entry is there. -/
  present : ∀ key ∈ w.ledger, w.store.exists? (Path.ofString key) = .ok true
  /-- Every path below the root that is new is an entry, or an empty file that was to be written in
  vain. -/
  complete : ∀ p : Path, root ∈ p.ancestors → s₀.at? p.loc = none → (w.store.at? p.loc).isSome →
    p.text ∈ w.ledger ∨ (blank p.loc ∧ w.store.at? p.loc = some (.file .empty))
  /-- New directories below the root stand before what lies in them. -/
  ordered : ∀ older key newer, w.ledger = older ++ key :: newer →
    ∀ q ∈ (Path.ofString key).ancestors, root ∈ q.ancestors → s₀.at? q.loc = none → q.text ∈ older

variable {site : Site} {root p q : Path} {s₀ : Store} {asked blank : Loc → Prop} {w : Workshop E}
  {cs : List Command}

theorem performAll_append (site : Site) (w : Workshop E) (cs ds : List Command) :
    site.performAll w (cs ++ ds) = site.performAll (site.performAll w cs) ds := by
  simp [Site.performAll, List.foldl_append]

theorem performAll_extends (site : Site) (w : Workshop E) (cs : List Command) :
    w.Extends (site.performAll w cs) := by
  induction cs generalizing w with
  | nil => exact .refl w
  | cons c cs ih => exact (perform_extends site w c).trans (ih _)

/-- A sequence of commands keeps an account of which every place below the root may be asked for. -/
theorem performAll_audited (hroot : site.root.IsPlain)
    (h : w.Audited site.root s₀ (fun _ => True) blank)
    (hcs : ∀ c ∈ cs, ∀ path, c.destination? = some path → IsInner path)
    (hblank : ∀ loc, site.LeavesBlank w cs loc → blank loc) :
    (site.performAll w cs).Audited site.root s₀ (fun _ => True) blank := by
  induction cs generalizing w with
  | nil => exact h
  | cons c cs ih =>
    have hstep : (site.perform w c).2.Audited site.root s₀ (fun _ => True) blank :=
      perform_audited hroot h
        (fun path hreq => ⟨hcs c List.mem_cons_self path (destination?_of_request? hreq), trivial⟩)
        fun path hb => hblank _ ⟨[], c, cs, path, rfl, hb, rfl⟩
    refine ih hstep (fun d hd => hcs d (List.mem_cons_of_mem _ hd)) ?_
    rintro loc ⟨before, d, after, path, rfl, hb, hloc⟩
    exact hblank loc ⟨c :: before, d, after, path, rfl, hb, hloc⟩

theorem anchor_of_mem_ancestors (h : root ∈ p.ancestors) : p.anchor = root.anchor :=
  (Path.mem_ancestors_iff_loc.mp h).1.symm

theorem isAbove_of_mem_ancestors (h : root ∈ p.ancestors) : root.IsAbove p.loc :=
  (Path.mem_ancestors_iff_loc.mp h).2

theorem label_loc (h : p.anchor = root.anchor) : label root.anchor p.loc = p.text := by
  rw [label, ← h, Path.pathTo_loc]

theorem Accounted.mem_of_text {s : Store} {locs : List Loc}
    (h : Accounted root s₀ asked blank s locs)
    (hp : p.IsPlain) (ha : p.anchor = root.anchor)
    (hkey : p.text ∈ locs.map (label root.anchor)) : p.loc ∈ locs := by
  obtain ⟨loc, hloc, htext⟩ := List.mem_map.mp hkey
  have hback : pathTo root.anchor p.loc = p := by rw [← ha, Path.pathTo_loc]
  rw [label, ← hback] at htext
  rwa [(Path.text_pathTo_inj (h.recorded loc hloc).1 (by rwa [hback])).mp htext] at hloc

theorem Workshop.Audited.exactLedger (h : w.Audited root s₀ asked blank) :
    ExactLedger root s₀ blank w := by
  obtain ⟨locs, hl, hacc⟩ := h
  have hplain : ∀ loc ∈ locs, (pathTo root.anchor loc).IsPlain := fun loc hin =>
    (hacc.recorded loc hin).1
  have hread : ∀ loc ∈ locs, Path.ofString (label root.anchor loc) = pathTo root.anchor loc :=
    fun loc hin => (hplain loc hin).ofString_text
  refine ⟨?_, fun key hk => ?_, fun p hp hn hs => ?_, fun older key newer hsplit q hq hr hn => ?_⟩
  · rw [hl, List.Nodup, List.pairwise_map]
    refine hacc.nodup.imp_of_mem fun hin him hne hlm => hne ?_
    exact (Path.text_pathTo_inj (hplain _ hin) (hplain _ him)).mp hlm
  · rw [hl, List.mem_map] at hk
    obtain ⟨loc, hin, rfl⟩ := hk
    obtain ⟨hp, hf, -, hs, -⟩ := hacc.recorded loc hin
    rw [hread loc hin, exists?_of_fits hacc.plain hp hf, Path.loc_pathTo, hs]
  · rw [hl, ← label_loc (anchor_of_mem_ancestors hp)]
    exact (hacc.listed (isAbove_of_mem_ancestors hp) hn hs).imp_left List.mem_map_of_mem
  · rw [hl] at hsplit
    obtain ⟨before, rest, rfl, rfl, hrest⟩ := List.map_eq_append_iff.mp hsplit
    obtain ⟨loc, after, rfl, rfl, -⟩ := List.map_eq_cons_iff.mp hrest
    rw [hread loc (by simp)] at hq
    obtain ⟨ha, hd, hne⟩ := Path.mem_ancestors_iff_loc.mp hq
    rw [Path.loc_pathTo] at hd hne
    rw [← label_loc ha]
    exact List.mem_map_of_mem
      (hacc.ordered before loc after rfl q.loc (isAbove_of_mem_ancestors hr) hd hne hn)

/-- **Ledgers are exact.** On a site without `..` in a store without links, whatever commands are
carried out below the root and whichever of them fail, the ledger has only grown at its end and is
exact, but for files that were to be written in vain. -/
theorem ledger_exact (hroot : site.root.IsPlain) (hs : s₀.IsPlain) (lib : Template.Library E)
    (cs : List Command)
    (hcs : ∀ c ∈ cs, ∀ path, c.destination? = some path → IsInner path) :
    (∀ earlier later, cs = earlier ++ later →
      (site.performAll ⟨s₀, lib, []⟩ earlier).ledger <+:
        (site.performAll ⟨s₀, lib, []⟩ cs).ledger) ∧
      ExactLedger site.root s₀ (site.LeavesBlank ⟨s₀, lib, []⟩ cs)
        (site.performAll ⟨s₀, lib, []⟩ cs) := by
  refine ⟨?_, ?_⟩
  · rintro earlier later rfl
    rw [performAll_append]
    exact (performAll_extends site _ later).ledger
  · have hstart : Workshop.Audited site.root s₀ (fun _ => True)
        (site.LeavesBlank ⟨s₀, lib, []⟩ cs) ⟨s₀, lib, []⟩ := ⟨[], rfl, .start hs site.root _ _⟩
    exact (performAll_audited hroot hstart hcs fun _ => id).exactLedger

def sampleStore : Store :=
  (Store.empty.insert ["srv"] .directory).insert ["old", "srv"] (.file .empty)

theorem sampleStore_isPlain : sampleStore.IsPlain := by
  have hdir : (Store.empty.insert ["srv"] .directory).IsPlain :=
    IsPlain.empty.insert at?_root (by simp [at?, Store.empty]) (by simp)
  have hnone : (Store.empty.insert ["srv"] .directory).at? ["old", "srv"] = none := by
    rw [at?_insert_of_ne (by decide)]; rfl
  exact hdir.insert (at?_insert_self (by decide)) (by simp [hnone]) (by simp)

def sampleSite : Site := ⟨Path.ofString "/srv/app", []⟩

theorem sampleSite_isPlain : sampleSite.root.IsPlain :=
  Path.ofString_isPlain (by decide) (by decide)

def loneSurrogate : Content := ⟨[.surrogate 0]⟩

/-- Three of them fail: a directory is in the way, there is no such file, and a text cannot be
written. -/
def sampleCommands : List Command := [.createDirectory "src/db", .writeFile "src/db" "text",
  .copyStatic "none.txt" "copy.txt", .writeFile "src/app.js" "text",
  .writeFile "src/raw.js" loneSurrogate, .pathExists "docs"]

theorem ledger_exact_of_failures :
    sampleSite.root.IsPlain ∧ sampleStore.IsPlain ∧
      (∀ c ∈ sampleCommands, ∀ path, c.destination? = some path → IsInner path) ∧
      let w : Workshop Template.engine := ⟨sampleStore, .new none, []⟩
      (sampleSite.performAll w sampleCommands).ledger =
        ["/srv/app/src", "/srv/app/src/db", "/srv/app/src/app.js"] ∧
      (sampleSite.performAll w sampleCommands).store.at? ["raw.js", "src", "app", "srv"] =
        some (.file .empty) ∧
      ExactLedger sampleSite.root sampleStore (sampleSite.LeavesBlank w sampleCommands)
        (sampleSite.performAll w sampleCommands) := by
  have hcs : ∀ c ∈ sampleCommands, ∀ path, c.destination? = some path → IsInner path := by
    simp only [sampleCommands, List.forall_mem_cons, Command.destination?, Option.some.injEq,
      forall_eq', List.not_mem_nil, false_implies, implies_true, and_true, reduceCtorEq]
    decide
  have hledger : (sampleSite.performAll (⟨sampleStore, .new none, []⟩ : Workshop Template.engine)
      sampleCommands).ledger = ["/srv/app/src", "/srv/app/src/db", "/srv/app/src/app.js"] := by
    decide
  have hexact :=
    (ledger_exact (E := Template.engine) sampleSite_isPlain sampleStore_isPlain (.new none)
      sampleCommands hcs).2
  have hraw := hexact.complete (sampleSite.locate "src/raw.js") (by decide)
    (Option.isNone_iff_eq_none.mp (by decide)) (by decide)
  rw [hledger] at hraw
  exact ⟨sampleSite_isPlain, sampleStore_isPlain, hcs, hledger,
    (hraw.resolve_left (by decide)).2, hexact⟩

end Scaffold
