import Scaffold.Proofs.Ledger.Parents

/-!
# Commands and their ledger

What a command does to the disk is to carry out its `order?`: the path that it passes on to be
written or created, and what is to be put there. A command whose content cannot be had passes on
nothing. On a plain site a command keeps every account in which its request is among the places
asked for (`perform_audited`), whether it fails or not, and, if its text has no form in UTF-8, among
those that may be left blank. On every site a command takes nothing from the disk and only adds to
the end of the ledger (`perform_extends`).
-/

namespace Scaffold

open Store
open Scaffold.Path (pathTo)

def Command.destination? : Command → Option String
  | .writeFile path _ | .createDirectory path | .renderTemplate _ path _ | .copyStatic _ path
  | .writeJson path _ => some path
  | .pathExists _ => none

/-- What is to be put at a path: a file with some content, or a directory. -/
inductive Order where
  | file (content : Content)
  | directory

/-- What stands at a path once an order is carried out, if it can be. -/
def Order.entry? : Order → Option Entry
  | file content => content.bytes?.map .file
  | directory => some .directory

namespace Site

variable {E : Template.Engine}

/-- The path that a command passes on to be written or created, and what is to be put there: a
command whose content cannot be had passes on nothing. -/
def order? (site : Site) (w : Workshop E) : Command → Option (String × Order)
  | .writeFile path content => some (path, .file content)
  | .createDirectory path => some (path, .directory)
  | .renderTemplate template path data =>
    (w.library.render w.store template (data.getD site.defaults)).1.toOption.map fun content =>
      (path, .file content)
  | .copyStatic source path =>
    (w.library.readStatic w.store source).toOption.map fun content => (path, .file content)
  | .writeJson path value => some (path, .file (jsonContent value))
  | .pathExists _ => none

def request? (site : Site) (w : Workshop E) (c : Command) : Option String :=
  (site.order? w c).map Prod.fst

/-- The path that a command passes on in vain: its file is opened, but the text has no form in
UTF-8. -/
def blank? (site : Site) (w : Workshop E) (c : Command) : Option String :=
  if (site.perform w c).1 = .error .unencodable then site.request? w c else none

def put (site : Site) (w : Workshop E) (path : String) : Order → Except Fault Path × Workshop E
  | .file content => site.writeFile w path content
  | .directory => site.createDirectory w path

def libraryAfter (site : Site) (w : Workshop E) : Command → Template.Library E
  | .renderTemplate template _ data =>
    (w.library.render w.store template (data.getD site.defaults)).2
  | _ => w.library

end Site

variable {E : Template.Engine} {site : Site} {s₀ : Store} {asked blank : Loc → Prop}
  {w : Workshop E} {path : String} {c : Command} {x : Order}

theorem destination?_of_order? (h : site.order? w c = some (path, x)) :
    c.destination? = some path := by
  cases c with
  | writeFile | createDirectory | writeJson => cases h; rfl
  | renderTemplate | copyStatic => obtain ⟨_, -, hx⟩ := Option.map_eq_some_iff.mp h; cases hx; rfl
  | pathExists => cases h

theorem request?_eq_some_iff : site.request? w c = some path ↔
    ∃ x, site.order? w c = some (path, x) := by
  simp [Site.request?]

theorem destination?_of_request? (h : site.request? w c = some path) :
    c.destination? = some path :=
  (request?_eq_some_iff.mp h).elim fun _ hx => destination?_of_order? hx

theorem blank?_eq_some_iff : site.blank? w c = some path ↔
    (site.perform w c).1 = .error .unencodable ∧ site.request? w c = some path := by
  unfold Site.blank?
  split
  · next he => exact (and_iff_right he).symm
  · next he => exact iff_of_false nofun fun h => he h.1

theorem wrote_snd (r : Except Fault Path × Workshop E) : (Site.wrote r).2 = r.2 := rfl

theorem wrote_error_iff {r : Except Fault Path × Workshop E} {f : Fault} :
    (Site.wrote r).1 = .error f ↔ r.1 = .error f := by
  obtain ⟨result, w⟩ := r
  cases result <;> simp [Site.wrote, Except.map]

theorem perform_of_order (h : site.order? w c = some (path, x)) : site.perform w c =
    Site.wrote (site.put { w with library := site.libraryAfter w c } path x) := by
  cases c with
  | writeFile | createDirectory | writeJson => cases h; rfl
  | renderTemplate template p data =>
    obtain ⟨content, hr, hx⟩ := Option.map_eq_some_iff.mp h
    cases hx
    cases hres : w.library.render w.store template (data.getD site.defaults) with
    | mk r lib =>
      rw [hres] at hr
      cases r with
      | ok text => cases hr; simp only [Site.perform, Site.libraryAfter, Site.put, hres]
      | error f => cases hr
  | copyStatic source p =>
    obtain ⟨content, hr, hx⟩ := Option.map_eq_some_iff.mp h
    cases hx
    cases hres : w.library.readStatic w.store source with
    | ok text =>
      rw [hres] at hr
      cases hr
      simp only [Site.perform, Site.libraryAfter, Site.put, hres]
    | error f => rw [hres] at hr; cases hr
  | pathExists => cases h

/-- Without one it does nothing but render, and fails if it was to write. -/
theorem perform_of_no_order (h : site.order? w c = none) :
    ∃ r, site.perform w c = (r, { w with library := site.libraryAfter w c }) ∧
      (c.destination?.isSome → ∃ f, r = .error f) := by
  cases c with
  | writeFile | createDirectory | writeJson => cases h
  | renderTemplate template p data =>
    have hr := Option.map_eq_none_iff.mp h
    cases hres : w.library.render w.store template (data.getD site.defaults) with
    | mk r lib =>
      rw [hres] at hr
      cases r with
      | ok text => cases hr
      | error f =>
        exact ⟨.error f, by simp only [Site.perform, Site.libraryAfter, hres], fun _ => ⟨f, rfl⟩⟩
  | copyStatic source p =>
    have hr := Option.map_eq_none_iff.mp h
    cases hres : w.library.readStatic w.store source with
    | ok text => rw [hres] at hr; cases hr
    | error f =>
      exact ⟨.error f, by simp only [Site.perform, Site.libraryAfter, hres], fun _ => ⟨f, rfl⟩⟩
  | pathExists => exact ⟨_, rfl, nofun⟩

/-! ## Accounts -/

section Audited

variable (hroot : site.root.IsPlain) (h : w.Audited site.root s₀ asked blank) (hin : IsInner path)
  (hask : asked (site.locate path).loc)

include hroot h hin

theorem ensureParents_locate :
    (site.ensureParents w (site.locate path)).2.Audited site.root s₀ asked blank ∧
      ((site.ensureParents w (site.locate path)).1 = .ok () → IsTrodden site.root
        (site.ensureParents w (site.locate path)).2.store (site.locate path).loc.tail) := by
  have hback : pathTo site.root.anchor (site.locate path).loc = site.locate path := by
    rw [← Path.anchor_child hin]; exact Path.pathTo_loc _
  have hp : (site.locate path).IsPlain := Path.child_isPlain hroot hin
  have hr : site.root.loc <:+ (site.locate path).loc := Path.root_suffix_child hin
  have hkept := ensureParents_kept h (by rwa [hback]) hr
  rwa [hback] at hkept

include hask

theorem writeFile_audited (content : Content)
    (hblank : (site.writeFile w path content).1 = .error .unencodable →
      blank (site.locate path).loc) :
    (site.writeFile w path content).2.Audited site.root s₀ asked blank := by
  have hp : (site.locate path).IsPlain := Path.child_isPlain hroot hin
  have ha : (site.locate path).anchor = site.root.anchor := Path.anchor_child hin
  obtain ⟨hkept, htr⟩ := ensureParents_locate hroot h hin
  unfold Site.writeFile at hblank ⊢
  simp only at hblank ⊢
  split
  · next f w₁ hw => rw [hw] at hkept; exact hkept
  · next w₁ hw =>
    rw [hw] at hkept htr hblank
    have hwritten := writeBelow_written hkept.plain hp content
    split
    · next f t ht =>
      rw [ht] at hwritten
      by_cases hf : f = .unencodable
      · subst hf
        simp only [ht] at hblank
        exact hkept.blanked (hwritten.emptied rfl).2 ha (htr rfl) (.inl hask) (hblank trivial)
      · have hpaved := hwritten.error f hf rfl
        rw [ha] at hpaved
        exact hkept.paved hpaved (htr rfl)
    · next t ht =>
      rw [ht] at hwritten
      obtain ⟨bytes, -, hplaced⟩ := hwritten.ok rfl
      exact hkept.placed hplaced hp ha (Path.root_suffix_child hin) (htr rfl) (.inl hask)

theorem createDirectory_audited :
    (site.createDirectory w path).2.Audited site.root s₀ asked blank := by
  have hp : (site.locate path).IsPlain := Path.child_isPlain hroot hin
  have ha : (site.locate path).anchor = site.root.anchor := Path.anchor_child hin
  obtain ⟨hkept, htr⟩ := ensureParents_locate hroot h hin
  unfold Site.createDirectory
  simp only
  split
  · next f w₁ hw => rw [hw] at hkept; exact hkept
  · next w₁ hw =>
    rw [hw] at hkept htr
    have hafter := (createRecorded_kept hkept hp ha (Path.root_suffix_child hin) (htr rfl)
      fun _ => .inl hask).1
    split
    · next he => rw [he] at hafter; exact hafter
    · next he => rw [he] at hafter; exact hafter

end Audited

/-- Every command keeps an account of what it was asked for. -/
theorem perform_audited (hroot : site.root.IsPlain) (h : w.Audited site.root s₀ asked blank)
    (hreq : ∀ path, site.request? w c = some path →
      IsInner path ∧ asked (site.locate path).loc)
    (hblank : ∀ path, site.blank? w c = some path → blank (site.locate path).loc) :
    (site.perform w c).2.Audited site.root s₀ asked blank := by
  have h' : { w with library := site.libraryAfter w c }.Audited site.root s₀ asked blank := h
  cases ho : site.order? w c with
  | none =>
    obtain ⟨r, hp, -⟩ := perform_of_no_order ho
    rw [hp]
    exact h'
  | some order =>
    obtain ⟨path, x⟩ := order
    have hr : site.request? w c = some path := request?_eq_some_iff.mpr ⟨x, ho⟩
    obtain ⟨hin, hask⟩ := hreq path hr
    have hleft := fun he => hblank path (blank?_eq_some_iff.mpr ⟨he, hr⟩)
    rw [perform_of_order ho] at hleft ⊢
    cases x with
    | file content =>
      exact writeFile_audited hroot h' hin hask content fun he => hleft (wrote_error_iff.mpr he)
    | directory => exact createDirectory_audited hroot h' hin hask

/-- Nothing disappeared from the disk, and the ledger has only grown at its end. -/
structure Workshop.Extends (w w' : Workshop E) : Prop where
  ledger : w.ledger <+: w'.ledger
  store : w.store.Keeps w'.store

theorem Workshop.Extends.refl (w : Workshop E) : w.Extends w := ⟨List.prefix_rfl, .refl _⟩

theorem Workshop.Extends.trans {w₁ w₂ w₃ : Workshop E} (h : w₁.Extends w₂) (h' : w₂.Extends w₃) :
    w₁.Extends w₃ :=
  ⟨h.ledger.trans h'.ledger, h.store.trans h'.store⟩

theorem extends_store {s : Store} (h : w.store.Keeps s) : w.Extends { w with store := s } :=
  ⟨List.prefix_rfl, h⟩

theorem record_extends (w : Workshop E) (p : Path) : w.Extends (w.record p) := by
  unfold Workshop.record
  split
  · exact .refl w
  · exact ⟨List.prefix_append _ _, .refl _⟩

theorem createRecorded_extends (w : Workshop E) (p : Path) : w.Extends (w.createRecorded p).2 := by
  have hkeeps := makeDirs_keeps w.store p
  unfold Workshop.createRecorded
  split
  · next s hs => rw [hs] at hkeeps; exact (extends_store hkeeps).trans (record_extends _ p)
  · next hs => rw [hs] at hkeeps; exact extends_store hkeeps

theorem createAll_extends (w : Workshop E) (ps : List Path) : w.Extends (w.createAll ps).2 := by
  induction ps generalizing w with
  | nil => exact .refl w
  | cons p ps ih =>
    have hp := createRecorded_extends w p
    unfold Workshop.createAll
    split
    · next w₁ hw => rw [hw] at hp; exact hp.trans (ih w₁)
    · next hw => rw [hw] at hp; exact hp

theorem ensureParents_extends (site : Site) (w : Workshop E) (p : Path) :
    w.Extends (site.ensureParents w p).2 := by
  unfold Site.ensureParents
  split
  · exact .refl w
  · exact createAll_extends w _

theorem writeFile_extends (site : Site) (w : Workshop E) (path : String) (content : Content) :
    w.Extends (site.writeFile w path content).2 := by
  have hup := ensureParents_extends site w (site.locate path)
  unfold Site.writeFile
  simp only
  split
  · next hw => rw [hw] at hup; exact hup
  · next w₁ hw =>
    rw [hw] at hup
    have hkeeps := writeBelow_keeps w₁.store (site.locate path) content
    split
    · next hs => rw [hs] at hkeeps; exact hup.trans (extends_store hkeeps)
    · next hs =>
      rw [hs] at hkeeps
      exact (hup.trans (extends_store hkeeps)).trans (record_extends _ _)

theorem createDirectory_extends (site : Site) (w : Workshop E) (path : String) :
    w.Extends (site.createDirectory w path).2 := by
  have hup := ensureParents_extends site w (site.locate path)
  unfold Site.createDirectory
  simp only
  split
  · next hw => rw [hw] at hup; exact hup
  · next w₁ hw =>
    rw [hw] at hup
    have hlast := hup.trans (createRecorded_extends w₁ (site.locate path))
    split
    · next he => rw [he] at hlast; exact hlast
    · next he => rw [he] at hlast; exact hlast

/-- Whatever becomes of a command, it takes nothing away. -/
theorem perform_extends (site : Site) (w : Workshop E) (c : Command) :
    w.Extends (site.perform w c).2 := by
  have hlib : w.Extends { w with library := site.libraryAfter w c } := ⟨List.prefix_rfl, .refl _⟩
  cases ho : site.order? w c with
  | none =>
    obtain ⟨r, hp, -⟩ := perform_of_no_order ho
    rw [hp]
    exact hlib
  | some order =>
    obtain ⟨path, x⟩ := order
    rw [perform_of_order ho, wrote_snd]
    cases x with
    | file content => exact hlib.trans (writeFile_extends site _ path content)
    | directory => exact hlib.trans (createDirectory_extends site _ path)

end Scaffold
