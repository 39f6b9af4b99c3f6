import Scaffold.Proofs.Ledger.Present
import Scaffold.Proofs.Store.Placing
import Scaffold.Proofs.Store.Reading

/-!
# What commands put where

`demand?` is the entry that a command puts at its path, if its content can be had. On a plain site a
command that goes through has put it there (`perform_placed`) and recorded the path
(`perform_recorded`). It does go through if the path fits, the way is open and the place admits the
entry (`perform_ok`). Besides that a command only records directories on the way (`perform_notes`).
-/

namespace Scaffold

open Store
open Scaffold.Path (pathTo)

/-- The entry that a command is to put at its path, if its content can be had and written. -/
def Site.demand? {E : Template.Engine} (site : Site) (w : Workshop E) (c : Command) :
    Option (String × Entry) :=
  (site.order? w c).bind fun (path, x) => x.entry?.map fun e => (path, e)

namespace Store

/-- Nothing stands at a place, or an entry of the same shape. -/
def Admits (s : Store) (loc : Loc) (e : Entry) : Prop :=
  ∀ old, s.at? loc = some old → old.shape = e.shape

variable {anchor : Anchor} {s t u : Store} {loc l : Loc} {p : Path} {e : Entry}

theorem Paved.isOpen (h : Paved anchor s t loc) (ho : IsOpen s l) : IsOpen t l := by
  intro k hk
  rcases h.view k with hv | ⟨-, -, hd, -⟩
  · rw [hv]; exact ho k hk
  · exact .inr hd

theorem Paved.then_placed (h : Paved p.anchor s t p.loc.tail) (hp : Placed p e t u) :
    Placed p e s u where
  plain := hp.plain
  fits := hp.fits
  here := hp.here
  before old ho := hp.before old (h.at?_of_some ho)
  view l hl := by
    have hup : ∀ k, k <:+ p.loc.tail → k <:+ p.loc := fun k hk => hk.trans (List.tail_suffix _)
    rcases h.view l with hv | ⟨hk, hn, hd, hf⟩
    · rw [← hv]
      exact hp.view l hl
    · rcases hp.view l hl with hv' | ⟨-, hn', -⟩
      · exact .inr ⟨hup l hk, hn, hv'.trans hd, hf⟩
      · rw [hd] at hn'; cases hn'

end Store

variable {E : Template.Engine} {site : Site} {w w' : Workshop E} {p q : Path} {loc dir : Loc}
  {path name : String} {c : Command} {x : Order} {e : Entry} {P Q : Path → Prop}

theorem ensureParents_paved (hs : w.store.IsPlain)
    (hp : (pathTo site.root.anchor loc).IsPlain) :
    Paved site.root.anchor w.store
      (site.ensureParents w (pathTo site.root.anchor loc)).2.store loc.tail := by
  induction loc with
  | nil => exact .refl hs
  | cons name dir ih =>
    have hdir := hp.pathTo_suffix (List.suffix_cons name dir)
    rw [ensureParents_cons]
    split
    · split
      · exact .refl hs
      · exact .refl hs
      · have hup := ih hdir
        split
        · next w₁ hw =>
          rw [hw] at hup
          have hmade := makeDirs_made hup.plain hdir
          unfold Workshop.createRecorded
          split
          · next t ht =>
            rw [ht] at hmade
            have hlast := (hmade.ok rfl).paved
            rw [Path.loc_pathTo] at hlast
            rw [record_store]
            exact (hup.mono (List.tail_suffix dir)).trans hlast
          · next f t ht =>
            rw [ht] at hmade
            have hlast := hmade.error f rfl
            rw [Path.loc_pathTo] at hlast
            exact (hup.trans hlast).mono (List.tail_suffix dir)
        · next hw => rw [hw] at hup; exact hup.mono (List.tail_suffix dir)
    · exact .refl hs

theorem ensureParents_ok (hs : w.store.IsPlain) (hp : (pathTo site.root.anchor loc).IsPlain)
    (hf : (pathTo site.root.anchor loc).Fits) (ho : IsOpen w.store loc.tail) :
    (site.ensureParents w (pathTo site.root.anchor loc)).1 = .ok () := by
  induction loc with
  | nil => rfl
  | cons name dir ih =>
    have hsuf : dir <:+ (pathTo site.root.anchor (name :: dir)).loc := by
      rw [Path.loc_pathTo]; exact List.suffix_cons name dir
    have hdir : (pathTo site.root.anchor dir).IsPlain := hp.of_suffix hsuf
    have hdirf : (pathTo site.root.anchor dir).Fits := hf.of_suffix hp.anchored hsuf
    rw [ensureParents_cons, exists?_of_fits hs hdir hdirf]
    split
    · cases (w.store.at? (pathTo site.root.anchor dir).loc).isSome with
      | true => rfl
      | false =>
        have hup := ih hdir hdirf (ho.of_suffix (List.tail_suffix dir))
        have hpaved := ensureParents_paved hs hdir
        cases hw : site.ensureParents w (pathTo site.root.anchor dir) with
        | mk r w₁ =>
          rw [hw] at hup hpaved
          have hmake : (w₁.store.makeDirs (pathTo site.root.anchor dir)).1 = .ok () :=
            makeDirs_ok hpaved.plain hdir hdirf (by simpa using hpaved.isOpen ho)
          cases hup
          simp only [Workshop.createRecorded]
          split
          · rfl
          · next f t ht => rw [ht] at hmake; cases hmake
    · rfl

section Located

variable (hroot : site.root.IsPlain) (hin : IsInner path)

include hroot hin

/-- The parents of a requested path are made on the way to it. -/
theorem ensureParents_locate_paved (hs : w.store.IsPlain) :
    Paved (site.locate path).anchor w.store
      (site.ensureParents w (site.locate path)).2.store (site.locate path).loc.tail := by
  have hp : (site.locate path).IsPlain := Path.child_isPlain hroot hin
  have ha : (site.locate path).anchor = site.root.anchor := Path.anchor_child hin
  have hback : pathTo site.root.anchor (site.locate path).loc = site.locate path := by
    rw [← ha]; exact Path.pathTo_loc _
  have hpaved := @ensureParents_paved E site w (site.locate path).loc hs (by rwa [hback])
  rwa [hback, ← ha] at hpaved

theorem ensureParents_locate_ok (hs : w.store.IsPlain) (hf : (site.locate path).Fits)
    (ho : IsOpen w.store (site.locate path).loc.tail) :
    (site.ensureParents w (site.locate path)).1 = .ok () := by
  have hp : (site.locate path).IsPlain := Path.child_isPlain hroot hin
  have hback : pathTo site.root.anchor (site.locate path).loc = site.locate path := by
    rw [← Path.anchor_child hin]; exact Path.pathTo_loc _
  have hok :=
    @ensureParents_ok E site w (site.locate path).loc hs (by rwa [hback]) (by rwa [hback]) ho
  rwa [hback] at hok

theorem writeFile_placed (hs : w.store.IsPlain) {content : Content}
    (h : site.writeFile w path content = (.ok q, w')) : ∃ bytes, content.bytes? = some bytes ∧
      Placed (site.locate path) (.file bytes) w.store w'.store := by
  have hp : (site.locate path).IsPlain := Path.child_isPlain hroot hin
  have hpaved := ensureParents_locate_paved hroot hin hs
  unfold Site.writeFile at h
  simp only at h
  split at h
  · cases h
  · next w₁ hw =>
    rw [hw] at hpaved
    have hwritten := writeBelow_written hpaved.plain hp content
    split at h
    · cases h
    · next t ht =>
      rw [ht] at hwritten
      obtain ⟨bytes, hb, hplaced⟩ := hwritten.ok rfl
      cases h
      rw [record_store]
      exact ⟨bytes, hb, hpaved.then_placed hplaced⟩

theorem createDirectory_placed (hs : w.store.IsPlain)
    (h : site.createDirectory w path = (.ok q, w')) :
    Placed (site.locate path) .directory w.store w'.store := by
  have hp : (site.locate path).IsPlain := Path.child_isPlain hroot hin
  have hpaved := ensureParents_locate_paved hroot hin hs
  unfold Site.createDirectory at h
  simp only at h
  split at h
  · cases h
  · next w₁ hw =>
    rw [hw] at hpaved
    have hmade := makeDirs_made hpaved.plain hp
    unfold Workshop.createRecorded at h
    split at h
    · next w₂ hw₂ =>
      split at hw₂
      · next t ht =>
        rw [ht] at hmade
        cases hw₂
        cases h
        rw [record_store]
        exact hpaved.then_placed (hmade.ok rfl)
      · cases hw₂
    · cases h

theorem writeFile_ok (hs : w.store.IsPlain) (hf : (site.locate path).Fits)
    (hloc : (site.locate path).loc = name :: dir) (ho : IsOpen w.store dir) {content : Content}
    {bytes : ByteArray} (hc : content.bytes? = some bytes)
    (hn : w.store.Admits (name :: dir) (.file bytes)) :
    (site.writeFile w path content).1 = .ok (site.locate path) := by
  have hp : (site.locate path).IsPlain := Path.child_isPlain hroot hin
  have htail : (site.locate path).loc.tail = dir := by rw [hloc]; rfl
  have hup := ensureParents_locate_ok hroot hin hs hf (by rwa [htail])
  have hpaved := ensureParents_locate_paved hroot hin hs
  rw [htail] at hpaved
  unfold Site.writeFile
  simp only
  cases hw : site.ensureParents w (site.locate path) with
  | mk r w₁ =>
    rw [hw] at hup hpaved
    cases hup
    have hne : w₁.store.at? (name :: dir) ≠ some .directory := by
      rw [hpaved.sameBeside.view _ not_cons_suffix]
      intro hd
      cases hn _ hd
    have hok := writeBelow_ok hpaved.plain hp hf hloc (hpaved.isOpen ho) hne (by rw [hc]; rfl)
    simp only
    split
    · next f t ht => rw [ht] at hok; cases hok
    · rfl

theorem createDirectory_ok (hs : w.store.IsPlain) (hf : (site.locate path).Fits)
    (ho : IsOpen w.store (site.locate path).loc) :
    (site.createDirectory w path).1 = .ok (site.locate path) := by
  have hp : (site.locate path).IsPlain := Path.child_isPlain hroot hin
  have hup := ensureParents_locate_ok hroot hin hs hf (ho.of_suffix (List.tail_suffix _))
  have hpaved := ensureParents_locate_paved hroot hin hs
  unfold Site.createDirectory
  simp only
  cases hw : site.ensureParents w (site.locate path) with
  | mk r w₁ =>
    rw [hw] at hup hpaved
    cases hup
    have hok := makeDirs_ok hpaved.plain hp hf (hpaved.isOpen ho)
    simp only [Workshop.createRecorded]
    split
    · rfl
    · next f w₂ hw₂ =>
      split at hw₂
      · cases hw₂
      · next ht => rw [ht] at hok; cases hok

end Located

/-! ## Commands -/

theorem demand?_eq_some_iff : site.demand? w c = some (path, e) ↔
    ∃ x, site.order? w c = some (path, x) ∧ x.entry? = some e := by
  simp only [Site.demand?, Option.bind_eq_some_iff, Option.map_eq_some_iff, Prod.mk.injEq]
  constructor
  · rintro ⟨⟨_, x⟩, ho, _, he, rfl, rfl⟩
    exact ⟨x, ho, he⟩
  · rintro ⟨x, ho, he⟩
    exact ⟨(path, x), ho, e, he, rfl, rfl⟩

theorem demand?_of_order {text : String} (h : site.order? w c = some (path, .file text)) :
    site.demand? w c = some (path, .file text.toUTF8) :=
  demand?_eq_some_iff.mpr ⟨_, h, by rw [Order.entry?, Content.bytes?_ofString]; rfl⟩

/-- A command carries out the order that its entry comes from. -/
theorem perform_of_demand (h : site.demand? w c = some (path, e)) : ∃ x, x.entry? = some e ∧
    site.perform w c =
      Site.wrote (site.put { w with library := site.libraryAfter w c } path x) := by
  obtain ⟨x, ho, he⟩ := demand?_eq_some_iff.mp h
  exact ⟨x, he, perform_of_order ho⟩

theorem wrote_eq_ok {r : Except Fault Path × Workshop E} {a : Answer}
    (h : Site.wrote r = (.ok a, w')) : ∃ q, r = (.ok q, w') := by
  obtain ⟨x, w₁⟩ := r
  cases x with
  | error f => simp [Site.wrote, Except.map] at h
  | ok q =>
    exact ⟨q, by rw [← (Prod.mk.inj h).2]⟩

theorem put_entry (h : (site.put w path x).1 = .ok q) : ∃ e, x.entry? = some e := by
  cases x with
  | directory => exact ⟨.directory, rfl⟩
  | file content =>
    simp only [Site.put, Site.writeFile] at h
    split at h
    · cases h
    · next w₁ _ =>
      split at h
      · cases h
      · next t ht =>
        obtain ⟨bytes, hb, -⟩ := @writeBelow_leads w₁.store (site.locate path) content (by rw [ht])
        exact ⟨.file bytes, by rw [Order.entry?, hb]; rfl⟩

section Put

variable (hroot : site.root.IsPlain) (hin : IsInner path) (hs : w.store.IsPlain)

include hroot hin hs

theorem put_placed (h : site.put w path x = (.ok q, w')) :
    ∃ e, x.entry? = some e ∧ Placed (site.locate path) e w.store w'.store := by
  cases x with
  | file content =>
    obtain ⟨bytes, hb, hplaced⟩ := writeFile_placed hroot hin hs h
    exact ⟨.file bytes, by rw [Order.entry?, hb]; rfl, hplaced⟩
  | directory => exact ⟨.directory, rfl, createDirectory_placed hroot hin hs h⟩

/-- An order goes through on an open way to a place that admits its entry. -/
theorem put_ok (hx : x.entry? = some e) (hf : (site.locate path).Fits)
    (hloc : (site.locate path).loc = name :: dir) (ho : IsOpen w.store dir)
    (hn : w.store.Admits (name :: dir) e) : (site.put w path x).1 = .ok (site.locate path) := by
  cases x with
  | file content =>
    obtain ⟨bytes, hb, rfl⟩ := Option.map_eq_some_iff.mp hx
    exact writeFile_ok hroot hin hs hf hloc ho hb hn
  | directory =>
    cases hx
    refine createDirectory_ok hroot hin hs hf ?_
    rw [hloc]
    intro l hl
    rcases List.suffix_cons_iff.mp hl with rfl | hl
    · cases ho' : w.store.at? (name :: dir) with
      | none => exact .inl rfl
      | some old =>
        have hshape := hn old ho'
        cases old <;> simp_all [Entry.shape]
    · exact ho l hl

end Put

theorem demand?_of_ok {a : Answer} (h : (site.perform w c).1 = .ok a)
    (hd : c.destination? = some path) : ∃ e, site.demand? w c = some (path, e) := by
  cases ho : site.order? w c with
  | none =>
    obtain ⟨r, hp, hfails⟩ := perform_of_no_order ho
    obtain ⟨f, rfl⟩ := hfails (by rw [hd]; rfl)
    rw [hp] at h
    cases h
  | some order =>
    obtain ⟨path', x⟩ := order
    cases (destination?_of_order? ho).symm.trans hd
    rw [perform_of_order ho] at h
    obtain ⟨q, hq⟩ := wrote_eq_ok (Prod.ext h rfl)
    obtain ⟨e, he⟩ := put_entry (congrArg Prod.fst hq)
    exact ⟨e, demand?_eq_some_iff.mpr ⟨x, ho, he⟩⟩

section Demanded

variable (hroot : site.root.IsPlain) (hin : IsInner path) (hs : w.store.IsPlain)
  (hd : site.demand? w c = some (path, e))

include hroot hin hs hd

theorem perform_placed {a : Answer} (h : site.perform w c = (.ok a, w')) :
    Placed (site.locate path) e w.store w'.store := by
  obtain ⟨x, hx, hp⟩ := perform_of_demand hd
  obtain ⟨q, hq⟩ := wrote_eq_ok (hp.symm.trans h)
  have hs' : { w with library := site.libraryAfter w c }.store.IsPlain := hs
  obtain ⟨e', hx', hplaced⟩ := put_placed hroot hin hs' hq
  rw [hx] at hx'
  cases hx'
  exact hplaced

theorem perform_ok (hf : (site.locate path).Fits) (hloc : (site.locate path).loc = name :: dir)
    (ho : IsOpen w.store dir) (hn : w.store.Admits (name :: dir) e) :
    ∃ a w', site.perform w c = (.ok a, w') := by
  obtain ⟨x, hx, hp⟩ := perform_of_demand hd
  have hs' : { w with library := site.libraryAfter w c }.store.IsPlain := hs
  have hok := put_ok hroot hin hs' hx hf hloc ho hn
  exact ⟨_, _, hp.trans (Prod.ext (by rw [Site.wrote, hok]; rfl) rfl)⟩

end Demanded

/-! ## What a command leaves alone -/

section Elsewhere

variable (hroot : site.root.IsPlain) (hin : IsInner path) (hs : w.store.IsPlain)

include hroot hin hs

/-- Whatever becomes of an order, only its place and the way to it change. -/
theorem put_elsewhere (x : Order) :
    w.store.SameBeside (site.locate path).loc (site.put w path x).2.store := by
  have hp : (site.locate path).IsPlain := Path.child_isPlain hroot hin
  have hup := ((ensureParents_locate_paved hroot hin hs).mono (List.tail_suffix _)).sameBeside
  cases x with
  | file content =>
    simp only [Site.put, Site.writeFile]
    split
    · next hw => rw [hw] at hup; exact hup
    · next w₁ hw =>
      rw [hw] at hup
      have hboth := hup.trans (writeBelow_written hup.plain hp content).sameBeside
      split
      · next ht => rw [ht] at hboth; exact hboth
      · next ht => rw [ht] at hboth; rw [record_store]; exact hboth
  | directory =>
    simp only [Site.put, Site.createDirectory, Workshop.createRecorded]
    split
    · next hw => rw [hw] at hup; exact hup
    · next w₁ hw =>
      rw [hw] at hup
      have hboth := hup.trans (makeDirs_made hup.plain hp).sameBeside
      cases hm : w₁.store.makeDirs (site.locate path) with
      | mk r t =>
        rw [hm] at hboth
        cases r with
        | ok _ => simp only [record_store]; exact hboth
        | error f => exact hboth

theorem perform_elsewhere (hd : c.destination? = some path) :
    w.store.SameBeside (site.locate path).loc (site.perform w c).2.store := by
  cases ho : site.order? w c with
  | none =>
    obtain ⟨r, hp, -⟩ := perform_of_no_order ho
    rw [hp]
    exact .refl hs
  | some order =>
    obtain ⟨path', x⟩ := order
    cases (destination?_of_order? ho).symm.trans hd
    have hs' : { w with library := site.libraryAfter w c }.store.IsPlain := hs
    rw [perform_of_order ho, wrote_snd]
    exact put_elsewhere hroot hin hs' x

end Elsewhere

/-- Nothing but some paths was recorded, and the templates are the same. -/
structure Workshop.Notes (P : Path → Prop) (w w' : Workshop E) : Prop where
  library : w'.library = w.library
  ledger : ∀ key ∈ w'.ledger, key ∈ w.ledger ∨ ∃ q, P q ∧ key = q.text

theorem Workshop.Notes.refl (P : Path → Prop) (w : Workshop E) : w.Notes P w :=
  ⟨rfl, fun _ hk => .inl hk⟩

theorem Workshop.Notes.trans {w₁ w₂ : Workshop E} (h : w.Notes P w₁) (h' : w₁.Notes P w₂) :
    w.Notes P w₂ where
  library := h'.library.trans h.library
  ledger key hk := (h'.ledger key hk).elim (h.ledger key) .inr

theorem Workshop.Notes.mono (h : w.Notes P w') (hPQ : ∀ q, P q → Q q) : w.Notes Q w' where
  library := h.library
  ledger key hk := (h.ledger key hk).imp_right fun ⟨q, hq, he⟩ => ⟨q, hPQ q hq, he⟩

theorem Workshop.Notes.store (P : Path → Prop) (w : Workshop E) (s : Store) :
    w.Notes P { w with store := s } := ⟨rfl, fun _ hk => .inl hk⟩

theorem record_notes (w : Workshop E) (hp : P p) : w.Notes P (w.record p) := by
  unfold Workshop.record
  split
  · exact .refl P w
  · refine ⟨rfl, fun key hk => ?_⟩
    rcases List.mem_append.mp hk with hk | hk
    · exact .inl hk
    · exact .inr ⟨p, hp, List.mem_singleton.mp hk⟩

theorem mem_record (w : Workshop E) (p : Path) : p.text ∈ (w.record p).ledger := by
  unfold Workshop.record
  split
  · next h => simpa using h
  · simp

theorem createRecorded_notes (w : Workshop E) (hp : P p) : w.Notes P (w.createRecorded p).2 := by
  unfold Workshop.createRecorded
  split
  · exact (Workshop.Notes.store P w _).trans (record_notes _ hp)
  · exact .store P w _

theorem createAll_notes (w : Workshop E) {ps : List Path} (hps : ∀ p ∈ ps, P p) :
    w.Notes P (w.createAll ps).2 := by
  induction ps generalizing w with
  | nil => exact .refl P w
  | cons p ps ih =>
    have hstep := createRecorded_notes w (hps p List.mem_cons_self)
    unfold Workshop.createAll
    split
    · next w₁ hw =>
      rw [hw] at hstep
      exact hstep.trans (ih w₁ fun q hq => hps q (List.mem_cons_of_mem _ hq))
    · next hw => rw [hw] at hstep; exact hstep

/-- The paths that a command for a path may record: that path, and those between it and the root
that are missing. -/
def Site.IsOnWay (site : Site) (s : Store) (p q : Path) : Prop :=
  q = p ∨ (q ∈ p.ancestors ∧ site.root ∈ q.ancestors ∧ s.exists? q = .ok false)

theorem ensureParents_notes (site : Site) (w : Workshop E) (p : Path) :
    w.Notes (site.IsOnWay w.store p) (site.ensureParents w p).2 := by
  unfold Site.ensureParents
  split
  · exact .refl _ w
  · next missing hm => exact createAll_notes w fun q hq => .inr (mem_missingAmong hm hq)

theorem writeFile_notes (site : Site) (w : Workshop E) (path : String) (content : Content) :
    w.Notes (site.IsOnWay w.store (site.locate path)) (site.writeFile w path content).2 := by
  have hup := ensureParents_notes site w (site.locate path)
  unfold Site.writeFile
  simp only
  split
  · next hw => rw [hw] at hup; exact hup
  · next w₁ hw =>
    rw [hw] at hup
    split
    · exact hup.trans (.store _ w₁ _)
    · exact (hup.trans (.store _ w₁ _)).trans (record_notes _ (.inl rfl))

theorem createDirectory_notes (site : Site) (w : Workshop E) (path : String) :
    w.Notes (site.IsOnWay w.store (site.locate path)) (site.createDirectory w path).2 := by
  have hup := ensureParents_notes site w (site.locate path)
  unfold Site.createDirectory
  simp only
  split
  · next hw => rw [hw] at hup; exact hup
  · next w₁ hw =>
    rw [hw] at hup
    have hlast : w₁.Notes (site.IsOnWay w.store (site.locate path))
        (w₁.createRecorded (site.locate path)).2 := createRecorded_notes w₁ (.inl rfl)
    split
    · next he => rw [he] at hlast; exact hup.trans hlast
    · next he => rw [he] at hlast; exact hup.trans hlast

theorem put_notes (site : Site) (w : Workshop E) (path : String) (x : Order) :
    w.Notes (site.IsOnWay w.store (site.locate path)) (site.put w path x).2 := by
  cases x with
  | file content => exact writeFile_notes site w path content
  | directory => exact createDirectory_notes site w path

/-- A command records nothing but its path and directories on the way. -/
theorem perform_notes (hd : site.demand? w c = some (path, e)) :
    { w with library := site.libraryAfter w c }.Notes (site.IsOnWay w.store (site.locate path))
      (site.perform w c).2 := by
  obtain ⟨x, -, hp⟩ := perform_of_demand hd
  rw [hp, wrote_snd]
  exact put_notes site { w with library := site.libraryAfter w c } path x

theorem put_recorded (h : site.put w path x = (.ok q, w')) :
    (site.locate path).text ∈ w'.ledger := by
  cases x with
  | file content =>
    simp only [Site.put, Site.writeFile] at h
    split at h
    · cases h
    · split at h
      · cases h
      · cases h
        exact mem_record _ _
  | directory =>
    simp only [Site.put, Site.createDirectory, Workshop.createRecorded] at h
    split at h
    · cases h
    · split at h
      · next hw =>
        split at hw
        · cases hw
          cases h
          exact mem_record _ _
        · cases hw
      · cases h

theorem perform_recorded {a : Answer} (hd : site.demand? w c = some (path, e))
    (h : site.perform w c = (.ok a, w')) : (site.locate path).text ∈ w'.ledger := by
  obtain ⟨x, -, hp⟩ := perform_of_demand hd
  obtain ⟨q, hq⟩ := wrote_eq_ok (hp.symm.trans h)
  exact put_recorded hq

end Scaffold
