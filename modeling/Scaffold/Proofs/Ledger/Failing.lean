import Scaffold.Proofs.Ledger.Exact
import Scaffold.Proofs.Ledger.Performing
import Scaffold.Proofs.Run.Progress
import Scaffold.Proofs.Template.History

/-!
# Commands that fail

A command that fails has stopped on the way to its path (`StoppedOnWay`): what was there is as it
was, and there may be new directories above the path, of which those below the root are recorded
(`perform_stopped`). Read for a workshop in use: the new directories below the root are just what
the ledger has got at its end, the outermost first (`LeftInPart`). One failure comes later: a text
without a form in UTF-8 is found out when its file is open, and then empty (`Workshop.failedAt`). A
command whose content cannot be had leaves no trace. Main statement: `failing_harmless`.
-/

namespace Scaffold

open Store
open Scaffold.Path (pathTo)

variable {E : Template.Engine}

/-- The content of a command cannot be had: its template is not loaded, compiled or rendered, or its
static source is not read. -/
inductive Site.LacksContent (site : Site) (w : Workshop E) : Command → Fault → Prop where
  | template {template path : String} {data : Option Template.Data} {f : Fault}
    (h : (w.library.render w.store template (data.getD site.defaults)).1 = .error f) :
    LacksContent site w (.renderTemplate template path data) f
  | static {source path : String} {f : Fault} (h : w.library.readStatic w.store source = .error f) :
    LacksContent site w (.copyStatic source path) f

/-- What work that stopped on the way to a path leaves when it fails: if that is for the text, the
file at the path is open and empty. -/
def Workshop.failedAt (w : Workshop E) (p : Path) (f : Fault) : Workshop E :=
  if f = .unencodable then { w with store := w.store.insert p.loc (.file .empty) } else w

/-- Nothing but missing directories above a path came into being, and those below the root were
recorded at the end of the ledger. -/
structure LeftInPart (root p : Path) (w w' : Workshop E) : Prop where
  kept : ∀ loc e, w.store.at? loc = some e → w'.store.at? loc = some e
  onWay : ∀ loc, w.store.at? loc = none → (w'.store.at? loc).isSome →
    w'.store.at? loc = some .directory ∧ loc <:+ p.loc ∧ loc ≠ p.loc
  recorded : ∃ made : List Path, w'.ledger = w.ledger ++ made.map Path.text ∧
    (∀ q, q ∈ made ↔ root ∈ q.ancestors ∧ w.store.at? q.loc = none ∧ (w'.store.at? q.loc).isSome) ∧
    made.Pairwise fun outer inner => outer ∈ inner.ancestors

/-- Work for a path stopped above it: the way is paved, and all that was recorded is on it below the
root. -/
structure StoppedOnWay (root p : Path) (w w' : Workshop E) : Prop where
  paved : Paved root.anchor w.store w'.store p.loc.tail
  audited : w'.Audited root w.store (fun _ => False) fun _ => False
  noted : ∀ key ∈ w'.ledger, ∃ q ∈ p.ancestors, root ∈ q.ancestors ∧ key = q.text

variable {site : Site} {root p : Path} {w w' : Workshop E} {path : String} {c : Command} {f : Fault}
  {x : Order} {s s₀ t : Store} {locs : List Loc} {created ledger : List String}

theorem failedAt_of_ne (h : f ≠ .unencodable) : w.failedAt p f = w := if_neg h

theorem failedAt_after : (w.failedAt p f).after created = (w.after created).failedAt p f := by
  unfold Workshop.failedAt
  split <;> rfl

theorem missingAmong_ne_unencodable (root : Path) (s : Store) (ps : List Path) :
    Site.missingAmong root s ps ≠ .error .unencodable := by
  induction ps with
  | nil => intro h; cases h
  | cons p outer ih =>
    unfold Site.missingAmong
    split
    · intro h; cases h
    · refine bind_ne_error (look_ne_unencodable _) fun there => ?_
      cases there with
      | true => intro h; cases h
      | false => exact bind_ne_error ih fun rest h => by cases h

theorem createRecorded_ne_unencodable (w : Workshop E) (p : Path) :
    (w.createRecorded p).1 ≠ .error .unencodable := by
  have hmake := makeDirs_ne_unencodable w.store p
  unfold Workshop.createRecorded
  split
  · nofun
  · next hm => rw [hm] at hmake; exact hmake

theorem createAll_ne_unencodable (w : Workshop E) (ps : List Path) :
    (w.createAll ps).1 ≠ .error .unencodable := by
  induction ps generalizing w with
  | nil => nofun
  | cons p ps ih =>
    have hstep := createRecorded_ne_unencodable w p
    unfold Workshop.createAll
    split
    · exact ih _
    · next hc => rw [hc] at hstep; exact hstep

/-- No text is looked at before the parents are there. -/
theorem ensureParents_ne_unencodable (site : Site) (w : Workshop E) (p : Path) :
    (site.ensureParents w p).1 ≠ .error .unencodable := by
  unfold Site.ensureParents
  split
  · next f hm =>
    intro h
    cases h
    exact missingAmong_ne_unencodable _ _ _ hm
  · exact createAll_ne_unencodable w _

theorem createDirectory_ne_unencodable (site : Site) (w : Workshop E) (path : String) :
    (site.createDirectory w path).1 ≠ .error .unencodable := by
  have hup := ensureParents_ne_unencodable site w (site.locate path)
  unfold Site.createDirectory
  simp only
  split
  · next hw => rw [hw] at hup; exact fun h => hup (congrArg Except.error (Except.error.inj h))
  · next w₁ hw =>
    have hlast := createRecorded_ne_unencodable w₁ (site.locate path)
    split
    · nofun
    · next hc => rw [hc] at hlast; exact fun h => hlast (congrArg Except.error (Except.error.inj h))

theorem sources_ne_unencodable (lib : Template.Library E) (s : Store) (path : String) :
    lib.sources s path ≠ .error .unencodable := by
  unfold Template.Library.sources
  split
  · nofun
  · exact map_ne_error readText_ne_unencodable _

theorem load_ne_unencodable (lib : Template.Library E) (s : Store) (path : String) :
    lib.load s path ≠ .error .unencodable := by
  refine bind_ne_error (look_ne_unencodable _) fun there => ?_
  cases there with
  | false => nofun
  | true =>
    refine bind_ne_error (sources_ne_unencodable lib s path) fun source? => ?_
    cases source? with
    | none => nofun
    | some source => cases hc : E.compile path source <;> simp [hc]

theorem readStatic_ne_unencodable (lib : Template.Library E) (s : Store) (path : String) :
    lib.readStatic s path ≠ .error .unencodable := by
  refine bind_ne_error (look_ne_unencodable _) fun there => ?_
  cases there with
  | false => nofun
  | true => exact map_ne_error readText_ne_unencodable _

theorem Site.LacksContent.ne_unencodable (h : site.LacksContent w c f) : f ≠ .unencodable := by
  rintro rfl
  cases h with
  | @template template path data _ h =>
    rcases w.library.render_cases w.store template (data.getD site.defaults) with
      ⟨tree, -, hr⟩ | ⟨-, ⟨tree, -, hr⟩ | ⟨g, hl, hr⟩⟩ <;> rw [hr] at h
    · obtain ⟨why, hw⟩ := Template.Library.renderTree_error h
      cases hw
    · obtain ⟨why, hw⟩ := Template.Library.renderTree_error h
      cases hw
    · cases h
      exact load_ne_unencodable _ _ _ hl
  | static h => exact readStatic_ne_unencodable _ _ _ h

def Workshop.unused (w : Workshop E) : Workshop E := { w with ledger := [] }

theorem StoppedOnWay.start (hs : w.store.IsPlain) : StoppedOnWay root p w.unused w.unused where
  paved := .refl hs
  audited := ⟨[], rfl, .start hs _ _ _⟩
  noted key hk := by cases hk

/-- The way may be paved further if nothing is missing below the root. -/
theorem StoppedOnWay.pave (h : StoppedOnWay root p w w')
    (ht : Paved root.anchor w'.store t p.loc.tail) (htr : IsTrodden root w'.store p.loc.tail) :
    StoppedOnWay root p w { w' with store := t } where
  paved := h.paved.trans ht
  audited := h.audited.paved ht htr
  noted := h.noted

section Located

variable (hroot : site.root.IsPlain) (hin : IsInner path) (hs : w.store.IsPlain)

include hroot hin hs

theorem ensureParents_stopped : StoppedOnWay site.root (site.locate path) w.unused
      (site.ensureParents w.unused (site.locate path)).2 ∧
    ((site.ensureParents w.unused (site.locate path)).1 = .ok () → IsTrodden site.root
      (site.ensureParents w.unused (site.locate path)).2.store (site.locate path).loc.tail) := by
  have haudited : w.unused.Audited site.root w.store (fun _ => False) fun _ => False :=
    ⟨[], rfl, .start hs _ _ _⟩
  have ha : (site.locate path).anchor = site.root.anchor := Path.anchor_child hin
  obtain ⟨hkept, htr⟩ := ensureParents_locate hroot haudited hin
  have hpaved := @ensureParents_locate_paved E site w.unused path hroot hin hs
  rw [ha] at hpaved
  refine ⟨⟨hpaved, hkept, fun key hk => ?_⟩, htr⟩
  have hnotes : w.unused.Notes
      (fun q => q ∈ (site.locate path).ancestors ∧ site.root ∈ q.ancestors)
      (site.ensureParents w.unused (site.locate path)).2 := by
    unfold Site.ensureParents
    split
    · exact .refl _ _
    · next missing hm =>
      refine createAll_notes _ fun q hq => ?_
      obtain ⟨hup, hbelow, -⟩ := mem_missingAmong hm hq
      exact ⟨hup, hbelow⟩
  rcases hnotes.ledger key hk with hold | ⟨q, ⟨hup, hbelow⟩, rfl⟩
  · cases hold
  · exact ⟨q, hup, hbelow, rfl⟩

theorem writeFile_stopped {content : Content}
    (h : (site.writeFile w.unused path content).1 = .error f) :
    ∃ u, StoppedOnWay site.root (site.locate path) w.unused u ∧
      (site.writeFile w.unused path content).2 = u.failedAt (site.locate path) f := by
  have hp : (site.locate path).IsPlain := Path.child_isPlain hroot hin
  have ha : (site.locate path).anchor = site.root.anchor := Path.anchor_child hin
  have hparents := ensureParents_ne_unencodable site w.unused (site.locate path)
  obtain ⟨hup, htr⟩ := ensureParents_stopped hroot hin hs
  unfold Site.writeFile at h ⊢
  simp only at h ⊢
  split at h
  · next g w₁ hw =>
    rw [hw] at hup hparents
    cases h
    exact ⟨w₁, hup, (failedAt_of_ne fun hf => hparents (congrArg _ hf)).symm⟩
  · next w₁ hw =>
    rw [hw] at hup htr
    have hwritten := writeBelow_written hup.paved.plain hp content
    split at h
    · next g t ht =>
      rw [ht] at hwritten
      cases h
      by_cases hf : f = .unencodable
      -- the file was opened over the way that had been paved by then
      · subst hf
        obtain ⟨t₀, ht₀, rfl⟩ := hwritten.opened rfl
        rw [ha] at ht₀
        exact ⟨{ w₁ with store := t₀ }, hup.pave ht₀ (htr rfl), rfl⟩
      · have hlast := hwritten.error f hf rfl
        rw [ha] at hlast
        exact ⟨{ w₁ with store := t }, hup.pave hlast (htr rfl), (failedAt_of_ne hf).symm⟩
    · cases h

theorem createDirectory_stopped (h : (site.createDirectory w.unused path).1 = .error f) :
    StoppedOnWay site.root (site.locate path) w.unused
      (site.createDirectory w.unused path).2 := by
  have hp : (site.locate path).IsPlain := Path.child_isPlain hroot hin
  have ha : (site.locate path).anchor = site.root.anchor := Path.anchor_child hin
  obtain ⟨hup, htr⟩ := ensureParents_stopped hroot hin hs
  unfold Site.createDirectory at h ⊢
  simp only at h ⊢
  split at h
  · next g w₁ hw =>
    rw [hw] at hup
    exact hup
  · next w₁ hw =>
    rw [hw] at hup htr
    have hmade := makeDirs_made hup.paved.plain hp
    unfold Workshop.createRecorded at h ⊢
    split at h
    · cases h
    · next g w₂ hw₂ =>
      split at hw₂
      · cases hw₂
      · next t ht =>
        rw [ht] at hmade
        cases hw₂
        have hlast := hmade.error g rfl
        rw [ha] at hlast
        exact hup.pave hlast (htr rfl)

theorem put_stopped (h : (site.put w.unused path x).1 = .error f) :
    ∃ u, StoppedOnWay site.root (site.locate path) w.unused u ∧
      (site.put w.unused path x).2 = u.failedAt (site.locate path) f := by
  cases x with
  | file content => exact writeFile_stopped hroot hin hs h
  | directory =>
    have hf : f ≠ .unencodable := fun hf =>
      createDirectory_ne_unencodable site w.unused path (hf ▸ h)
    exact ⟨_, createDirectory_stopped hroot hin hs h, (failedAt_of_ne hf).symm⟩

end Located

/-! ## Commands that stop -/

theorem Site.LacksContent.perform (h : site.LacksContent w c f) :
    ∃ lib, site.perform w c = (.error f, { w with library := lib }) := by
  cases h with
  | @template template path data _ h =>
    cases hr : w.library.render w.store template (data.getD site.defaults) with
    | mk r lib =>
      rw [hr] at h
      cases h
      exact ⟨lib, by simp only [Site.perform, hr]⟩
  | static h => exact ⟨w.library, by simp only [Site.perform, h]⟩

theorem lacksContent_or_order (site : Site) (w : Workshop E) (hd : c.destination? = some path) :
    (∃ f, site.LacksContent w c f) ∨ ∃ x, site.order? w c = some (path, x) := by
  cases c with
  | writeFile | createDirectory | writeJson => cases hd; exact .inr ⟨_, rfl⟩
  | renderTemplate template p data =>
    cases hd
    cases hr : (w.library.render w.store template (data.getD site.defaults)).1 with
    | error f => exact .inl ⟨f, .template hr⟩
    | ok content => exact .inr ⟨.file content, by rw [Site.order?, hr]; rfl⟩
  | copyStatic source p =>
    cases hd
    cases hr : w.library.readStatic w.store source with
    | error f => exact .inl ⟨f, .static hr⟩
    | ok content => exact .inr ⟨.file content, by rw [Site.order?, hr]; rfl⟩
  | pathExists p => cases hd

/-- A command that fails has stopped on the way, or in its file. -/
theorem perform_stopped (hroot : site.root.IsPlain) (hs : w.store.IsPlain)
    (hd : c.destination? = some path) (hin : IsInner path)
    (h : (site.perform w.unused c).1 = .error f) :
    ∃ u, StoppedOnWay site.root (site.locate path) w.unused u ∧
      (site.perform w.unused c).2 = u.failedAt (site.locate path) f := by
  rcases lacksContent_or_order site w.unused hd with ⟨g, hlacks⟩ | ⟨x, ho⟩
  · obtain ⟨lib, hp⟩ := hlacks.perform
    rw [hp] at h ⊢
    cases h
    have hstart : StoppedOnWay site.root (site.locate path) w.unused w.unused := .start hs
    exact ⟨{ w.unused with library := lib }, ⟨hstart.paved, hstart.audited, hstart.noted⟩,
      (failedAt_of_ne hlacks.ne_unencodable).symm⟩
  -- whatever the templates are by then, the work is that of writing or creating
  · let w₁ : Workshop E := { w with library := site.libraryAfter w.unused c }
    rw [perform_of_order ho] at h ⊢
    obtain ⟨u, hu, hleft⟩ := put_stopped (w := w₁) hroot hin hs (wrote_error_iff.mp h)
    exact ⟨u, ⟨hu.paved, hu.audited, hu.noted⟩, hleft⟩

theorem perform_error (hroot : site.root.IsPlain) (hs : w.store.IsPlain)
    (hd : c.destination? = some path) (hin : IsInner path)
    (h : site.perform w c = (.error f, w')) :
    ∃ u, StoppedOnWay site.root (site.locate path) w.unused u ∧
      w' = (u.after w.ledger).failedAt (site.locate path) f := by
  have hlater : site.perform w c = later w.ledger (site.perform w.unused c) :=
    perform_after w.unused c
  rw [h] at hlater
  have herror : (site.perform w.unused c).1 = .error f := (congrArg Prod.fst hlater).symm
  obtain ⟨u, hu, hleft⟩ := perform_stopped hroot hs hd hin herror
  have hw' : w' = (site.perform w.unused c).2.after w.ledger := congrArg Prod.snd hlater
  exact ⟨u, hu, by rw [hw', hleft, failedAt_after]⟩

/-! ## What is left behind -/

theorem merge_of_disjoint (hnew : ∀ key ∈ ledger, key ∉ created) (h : ledger.Nodup) :
    Record.merge created ledger = created ++ ledger := by
  induction ledger generalizing created with
  | nil => exact (List.append_nil created).symm
  | cons key rest ih =>
    rw [List.nodup_cons] at h
    obtain ⟨hkey, hrest⟩ := List.forall_mem_cons.mp hnew
    have hnew' : ∀ k ∈ rest, k ∉ created ++ [key] := by
      intro k hk hin
      rcases List.mem_append.mp hin with hin | hin
      · exact hrest k hk hin
      · exact h.1 (List.mem_singleton.mp hin ▸ hk)
    rw [merge_cons, if_neg hkey, ih hnew' h.2, List.append_assoc, List.singleton_append]

/-- Places on one way are listed from the outermost inwards. -/
theorem Accounted.pairwise_suffix {asked blank : Loc → Prop} {way : Loc}
    (h : Accounted root s₀ asked blank s locs) (hway : ∀ loc ∈ locs, loc <:+ way)
    (hnew : ∀ loc ∈ locs, root.IsAbove loc ∧ s₀.at? loc = none) :
    locs.Pairwise fun outer inner => outer <:+ inner ∧ outer ≠ inner := by
  rw [List.pairwise_iff_forall_sublist]
  intro x y hsub
  obtain ⟨front, back, rfl, hx, hy⟩ := List.cons_sublist_iff.mp hsub
  rw [List.singleton_sublist] at hy
  have hne : x ≠ y := by
    rintro rfl
    exact (List.nodup_append.mp h.nodup).2.2 x hx x hy rfl
  have hxin : x ∈ front ++ back := List.mem_append_left _ hx
  have hyin : y ∈ front ++ back := List.mem_append_right _ hy
  refine ⟨?_, hne⟩
  rcases List.suffix_or_suffix_of_suffix (hway x hxin) (hway y hyin) with hxy | hyx
  · exact hxy
  -- a place above `x` stands before it, so it cannot come after it
  · exfalso
    obtain ⟨older, newer, rfl⟩ := List.append_of_mem hx
    have hsplit : older ++ x :: newer ++ back = older ++ x :: (newer ++ back) := by simp
    obtain ⟨hb, hn⟩ := hnew y hyin
    have hbefore : y ∈ older := h.ordered older x (newer ++ back) hsplit y hb hyx hne.symm hn
    exact (List.nodup_append.mp h.nodup).2.2 y (List.mem_append_left _ hbefore) y hy rfl

section Read

variable {u : Workshop E} (h : StoppedOnWay root p w.unused u)

include h

theorem StoppedOnWay.onWay {loc : Loc} (hn : w.store.at? loc = none)
    (hsome : (u.store.at? loc).isSome) :
    u.store.at? loc = some .directory ∧ loc <:+ p.loc ∧ loc ≠ p.loc := by
  rcases h.paved.view loc with hv | ⟨hl, -, hd, -⟩
  · rw [hv, show w.unused.store.at? loc = none from hn] at hsome
    cases hsome
  · refine ⟨hd, hl.trans (List.tail_suffix _), ?_⟩
    rintro rfl
    cases hloc : p.loc with
    | nil =>
      rw [hloc, at?_root] at hn
      cases hn
    | cons name dir =>
      rw [hloc] at hl
      exact not_cons_suffix hl

variable (hp : p.IsPlain)

include hp

/-- What was recorded on the way is new and lies below the root. -/
theorem StoppedOnWay.recorded_new : ∃ locs, u.ledger = locs.map (label root.anchor) ∧
    Accounted root w.store (fun _ => False) (fun _ => False) u.store locs ∧
    ∀ loc ∈ locs, (pathTo root.anchor loc).IsPlain ∧ root.IsAbove loc ∧
      w.store.at? loc = none ∧ (u.store.at? loc).isSome ∧ loc <:+ p.loc := by
  obtain ⟨locs, hl, hacc⟩ := h.audited
  refine ⟨locs, hl, hacc, fun loc hin => ?_⟩
  obtain ⟨hplain, -, -, hsome, hnew⟩ := hacc.recorded loc hin
  have hn : w.store.at? loc = none := hnew.resolve_left id
  have hkey : label root.anchor loc ∈ u.ledger := hl ▸ List.mem_map_of_mem hin
  obtain ⟨q, hup, hbelow, htext⟩ := h.noted _ hkey
  have hq : q = pathTo root.anchor loc := by
    rw [← (hp.of_mem_ancestors hup).ofString_text, ← htext]
    exact hplain.ofString_text
  rw [hq, Path.root_mem_ancestors] at hbelow
  exact ⟨hplain, hbelow, hn, hsome, (h.onWay hn hsome).2.1⟩

/-- In a workshop whose ledger lists what is there, the record of what was made goes to its end. -/
theorem StoppedOnWay.leftInPart (hs : w.store.IsPlain)
    (hthere : ∀ key ∈ w.ledger, w.store.exists? (Path.ofString key) = .ok true) :
    LeftInPart root p w (u.after w.ledger) := by
  obtain ⟨locs, hl, hacc, hnew⟩ := h.recorded_new hp
  refine ⟨fun loc e he => h.paved.at?_of_some he, fun loc hn hsome => h.onWay hn hsome,
    locs.map (pathTo root.anchor), ?_, fun q => ?_, ?_⟩
  · have hdisjoint : ∀ key ∈ u.ledger, key ∉ w.ledger := by
      intro key hk hold
      rw [hl] at hk
      obtain ⟨loc, hin, rfl⟩ := List.mem_map.mp hk
      obtain ⟨hplain, -, hn, -⟩ := hnew loc hin
      have hexists := hthere _ hold
      rw [label, hplain.ofString_text] at hexists
      have hsome := exists?_true hs hplain hexists
      rw [Path.loc_pathTo, hn] at hsome
      cases hsome
    rw [after_ledger, merge_of_disjoint hdisjoint h.audited.exactLedger.nodup, hl, List.map_map]
    rfl
  · rw [List.mem_map]
    constructor
    · rintro ⟨loc, hin, rfl⟩
      obtain ⟨-, hb, hn, hsome, -⟩ := hnew loc hin
      rw [Path.root_mem_ancestors, Path.loc_pathTo]
      exact ⟨hb, hn, hsome⟩
    · rintro ⟨hq, hn, hsome⟩
      have hin := hacc.listed (isAbove_of_mem_ancestors hq) hn hsome
      refine ⟨q.loc, hin.resolve_right And.left, ?_⟩
      rw [← anchor_of_mem_ancestors hq, Path.pathTo_loc]
  · rw [List.pairwise_map]
    have hway := hacc.pairwise_suffix (fun loc hin => (hnew loc hin).2.2.2.2)
      fun loc hin => ⟨(hnew loc hin).2.1, (hnew loc hin).2.2.1⟩
    refine hway.imp fun {outer inner} hout => ?_
    rw [Path.mem_ancestors_iff_loc, Path.loc_pathTo, Path.loc_pathTo]
    exact ⟨rfl, hout⟩

end Read

/-- **Failing commands do no damage.** On a plain site, in a store without links, and with a ledger
that lists what is there: a command for a path that stays inside, if it fails, leaves everything
that was there as it was; all that is new are directories above the path, and those below the root
are just what the ledger has got at its end, the outermost first. Only if it fails because the text
has no form in UTF-8 there is an empty file at the path after that, new or emptied, and not
recorded. If the content of the command cannot be had, it fails for that reason, and the store and
the ledger are the same as before. -/
theorem failing_harmless (hroot : site.root.IsPlain) (hs : w.store.IsPlain)
    (hthere : ∀ key ∈ w.ledger, w.store.exists? (Path.ofString key) = .ok true)
    (hd : c.destination? = some path) (hin : IsInner path)
    (h : site.perform w c = (.error f, w')) :
    (∃ u, LeftInPart site.root (site.locate path) w u ∧
        w' = u.failedAt (site.locate path) f) ∧
      ∀ g, site.LacksContent w c g → f = g ∧ w'.store = w.store ∧ w'.ledger = w.ledger := by
  refine ⟨?_, fun g hlacks => ?_⟩
  · obtain ⟨u, hstopped, rfl⟩ := perform_error hroot hs hd hin h
    exact ⟨_, hstopped.leftInPart (Path.child_isPlain hroot hin) hs hthere, rfl⟩
  · obtain ⟨lib, hp⟩ := hlacks.perform
    rw [h] at hp
    cases hp
    exact ⟨rfl, rfl, rfl⟩

def usedWorkshop : Workshop Template.engine := ⟨sampleStore, .new none, ["/srv/old"]⟩

def blockedCommand : Command := .writeFile "src/\x00/a.txt" "text"

def brokenText : Command := .writeFile "src/a.txt" loneSurrogate

def emptyHanded : Command := .renderTemplate "none.j2" "src/a.txt" none

theorem failing_harmless_of_blocked :
    sampleSite.root.IsPlain ∧ usedWorkshop.store.IsPlain ∧
      (∀ key ∈ usedWorkshop.ledger, usedWorkshop.store.exists? (Path.ofString key) = .ok true) ∧
      IsInner "src/\x00/a.txt" ∧ IsInner "src/a.txt" ∧
      (∃ w', sampleSite.perform usedWorkshop blockedCommand = (.error .nulInPath, w') ∧
        LeftInPart sampleSite.root (sampleSite.locate "src/\x00/a.txt") usedWorkshop w' ∧
        w'.ledger = ["/srv/old", "/srv/app/src"] ∧ (w'.store.at? ["src", "app", "srv"]).isSome) ∧
      (∃ w' u, sampleSite.perform usedWorkshop brokenText = (.error .unencodable, w') ∧
        LeftInPart sampleSite.root (sampleSite.locate "src/a.txt") usedWorkshop u ∧
        w'.store = u.store.insert ["a.txt", "src", "app", "srv"] (.file .empty) ∧
        w'.ledger = ["/srv/old", "/srv/app/src"]) ∧
      ∃ f w', sampleSite.perform usedWorkshop emptyHanded = (.error f, w') ∧
        sampleSite.LacksContent usedWorkshop emptyHanded f ∧
        w'.store = usedWorkshop.store ∧ w'.ledger = usedWorkshop.ledger := by
  have hthere : ∀ key ∈ usedWorkshop.ledger,
      usedWorkshop.store.exists? (Path.ofString key) = .ok true := by decide
  have hin : IsInner "src/\x00/a.txt" := by decide
  have hin' : IsInner "src/a.txt" := by decide
  have hblocked : (sampleSite.perform usedWorkshop blockedCommand).1 = .error .nulInPath ∧
      (sampleSite.perform usedWorkshop blockedCommand).2.ledger = ["/srv/old", "/srv/app/src"] ∧
      ((sampleSite.perform usedWorkshop blockedCommand).2.store.at?
        ["src", "app", "srv"]).isSome := by decide
  have hbroken : (sampleSite.perform usedWorkshop brokenText).1 = .error .unencodable ∧
      (sampleSite.perform usedWorkshop brokenText).2.ledger = ["/srv/old", "/srv/app/src"] := by
    decide
  refine ⟨sampleSite_isPlain, sampleStore_isPlain, hthere, hin, hin', ?_, ?_, ?_⟩
  · have hperform : sampleSite.perform usedWorkshop blockedCommand =
        (.error .nulInPath, (sampleSite.perform usedWorkshop blockedCommand).2) :=
      Prod.ext hblocked.1 rfl
    obtain ⟨u, hleft, hu⟩ :=
      (failing_harmless sampleSite_isPlain sampleStore_isPlain hthere rfl hin hperform).1
    rw [failedAt_of_ne (by decide)] at hu
    exact ⟨_, hperform, hu ▸ hleft, hblocked.2⟩
  · have hperform : sampleSite.perform usedWorkshop brokenText =
        (.error .unencodable, (sampleSite.perform usedWorkshop brokenText).2) :=
      Prod.ext hbroken.1 rfl
    obtain ⟨u, hleft, hu⟩ :=
      (failing_harmless sampleSite_isPlain sampleStore_isPlain hthere rfl hin' hperform).1
    have hloc : (sampleSite.locate "src/a.txt").loc = ["a.txt", "src", "app", "srv"] := by
      decide
    exact ⟨_, u, hperform, hleft, by rw [hu, Workshop.failedAt, if_pos rfl, hloc], hbroken.2⟩
  · have hd : emptyHanded.destination? = some "src/a.txt" := rfl
    rcases lacksContent_or_order sampleSite usedWorkshop hd with ⟨f, hlacks⟩ | ⟨x, horder⟩
    · obtain ⟨lib, hperform⟩ := hlacks.perform
      have hsame := (failing_harmless sampleSite_isPlain sampleStore_isPlain hthere rfl hin'
        hperform).2 f hlacks
      exact ⟨f, _, hperform, hlacks, hsame.2⟩
    · have hnone : (sampleSite.order? usedWorkshop emptyHanded).isNone := by decide
      rw [horder] at hnone
      cases hnone

end Scaffold
