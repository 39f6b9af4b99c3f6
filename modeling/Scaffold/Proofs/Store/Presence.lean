import Scaffold.Proofs.Store.Removal

/-!
# What is present

A path is present if it leads to an entry behind all links. In any store, with links or without,
what making directories and writing were asked for is present afterwards (`makeDirs_present`,
`writeBelow_present`) and stays so while the store grows (`Keeps.present`). Removing what was
present before the store shrank is never refused (`Keeps.removePath_of_present`), and a question
about a path that is not too long is refused only where some link leads to too long a name
(`look_error`).
-/

namespace Scaffold

/-- Neither the path nor one of its names is too long. -/
def Path.IsShort (p : Path) : Prop :=
  p.text.utf8ByteSize ≤ Store.pathLimit ∧ ∀ name ∈ p.names, name.utf8ByteSize ≤ Store.nameLimit

instance (p : Path) : Decidable p.IsShort := by unfold Path.IsShort; infer_instance

/-- A place that the walk of a question may end at without being refused. -/
def Place.IsHarmless : Place → Prop
  | .refused why => why.meansAbsent = true
  | _ => True

namespace Store

/-- The path leads to an entry. -/
def IsPresent (s : Store) (p : Path) : Prop := s.exists? p = .ok true

/-- Some link leads to a name that is too long. -/
def HasLongLink (s : Store) : Prop := ∃ loc target, s.at? loc = some (.link target) ∧
  ∃ name ∈ targetNames target, nameLimit < name.utf8ByteSize

variable {s t u : Store} {p : Path} {aim : Aim} {here loc dir : Loc} {name target : String}
  {names rest : List String} {e : Entry} {links : Nat} {f : Fault} {why : Refusal}
  {stretch : Stretch}

theorem isPresent_iff : s.IsPresent p ↔
    p.hasNul = false ∧ ∃ loc, s.place .target p = .entry loc ∧ (s.at? loc).isSome := by
  unfold IsPresent exists? look probe
  cases p.hasNul with
  | true => simp [Except.map]
  | false =>
    cases hpl : s.place .target p with
    | entry loc => simp [Except.map]
    | vacant dir name => simp [Except.map]
    | refused why => cases hw : why.meansAbsent <;> simp [Except.map, hw]

theorem Keeps.present (h : Keeps s t) (hp : s.IsPresent p) : t.IsPresent p := by
  obtain ⟨hnul, loc, hpl, hsome⟩ := isPresent_iff.mp hp
  exact isPresent_iff.mpr ⟨hnul, loc, h.place_entry hpl, h.isSome hsome⟩

theorem isPresent_of_isDirectory? (h : s.isDirectory? p = .ok true) : s.IsPresent p := by
  unfold isDirectory? at h
  unfold IsPresent exists?
  cases hl : s.look .target p with
  | error f => rw [hl] at h; cases h
  | ok found =>
    rw [hl] at h
    cases found with
    | none => cases h
    | some found => rfl

theorem advance_slashes (h : s.isDirectoryAt here = true) (hn : names.all (· = "")) :
    s.advance aim here names = .ended (.entry here) := by
  induction names with
  | nil => rfl
  | cons m more ih =>
    simp only [List.all_cons, Bool.and_eq_true, decide_eq_true_eq] at hn
    rw [advance, if_neg (by simp [h]), if_pos (.inr hn.1)]
    exact ih hn.2

/-- What is put into a vacant place is found there: a directory, or a file that was to be
created. -/
theorem Keeps.advance_filled (h : Keeps s t) (ht : t.at? (name :: dir) = some e)
    (he : e = .directory ∨ (aim = .creation ∧ e.isLink = false))
    (hs : s.advance aim here names = .ended (.vacant dir name)) :
    t.advance .target here names = .ended (.entry (name :: dir)) := by
  induction names generalizing here with
  | nil => cases hs
  | cons m more ih =>
    unfold Store.advance at hs
    split at hs
    · cases hs
    next hd =>
    have hdir := h.isDirectoryAt (by simpa using hd)
    rw [Store.advance, if_neg (by simp [hdir])]
    split at hs
    · next hdot => rw [if_pos hdot]; exact ih hs
    next hdot =>
    rw [if_neg hdot]
    split at hs
    · next hup => rw [if_pos hup]; exact ih hs
    next hup =>
    rw [if_neg hup, if_neg (by simp)]
    split at hs
    · cases hs
    next hslash =>
    split at hs
    · cases hs
    next hlong =>
    rw [if_neg hlong]
    split at hs
    · split at hs
      · next hrest =>
        cases hs
        rw [ht]
        rcases he with rfl | ⟨rfl, hfile⟩
        · exact advance_slashes (by simp [Store.isDirectoryAt, ht, Entry.isDirectory]) hrest
        · -- a file can only be created without a slash after its name
          have hnil : more = [] := Decidable.byContradiction fun hne => hslash ⟨rfl, hne, hrest⟩
          subst hnil
          cases e <;> simp_all [Entry.isLink, Store.advance]
      · cases hs
    · split at hs <;> cases hs
    · next e' hne he' =>
      obtain ⟨e'', hte, hsh⟩ := Option.map_eq_some_iff.mp (h _ _ he')
      rw [hte]
      cases e'' with
      | link target => cases e' <;> simp_all [Entry.shape]
      | file content => exact ih hs
      | directory => exact ih hs

theorem Keeps.walk_filled (h : Keeps s t) (ht : t.at? (name :: dir) = some e)
    (he : e = .directory ∨ (aim = .creation ∧ e.isLink = false))
    (hs : s.walk aim here names links = .vacant dir name) :
    t.walk .target here names links = .entry (name :: dir) := by
  induction links generalizing here names with
  | zero =>
    unfold walk at hs ⊢
    split at hs
    · next hpl => subst hs; rw [h.advance_filled ht he hpl]
    · cases hs
  | succ links ih =>
    unfold walk at hs ⊢
    split at hs
    · next hpl => subst hs; rw [h.advance_filled ht he hpl]
    · next d target rest hl =>
      rw [h.advance (advance_atLink hl) (.inr ⟨d, target, rest, rfl⟩)]
      exact ih hs

theorem Keeps.place_filled (h : Keeps s t) (ht : t.at? (name :: dir) = some e)
    (he : e = .directory ∨ (aim = .creation ∧ e.isLink = false))
    (hs : s.place aim p = .vacant dir name) : t.place .target p = .entry (name :: dir) := by
  unfold place at hs ⊢
  split at hs
  · cases hs
  · next hlong => rw [if_neg hlong]; exact h.walk_filled ht he hs

theorem isPresent_of_filled (h : Keeps s t) (ht : t.at? (name :: dir) = some e)
    (he : e = .directory ∨ (aim = .creation ∧ e.isLink = false)) (hnul : p.hasNul = false)
    (hs : s.place aim p = .vacant dir name) : t.IsPresent p :=
  isPresent_iff.mpr ⟨hnul, name :: dir, h.place_filled ht he hs, by simp [ht]⟩

/-! ## Creating makes present -/

theorem makeDir_present (h : s.makeDir p = .ok t) : t.IsPresent p := by
  have hkeeps := makeDir_keeps h
  unfold makeDir at h
  split at h
  · cases h
  next hnul =>
  split at h
  · cases h
  · next dir name hpl =>
    cases h
    exact isPresent_of_filled hkeeps (at?_insert_self (by simp)) (.inl rfl) (by simpa using hnul)
      hpl
  · cases h

theorem toleratePresent_present (h : toleratePresent s p f = .ok ()) : s.IsPresent p := by
  unfold toleratePresent at h
  split at h
  · split at h
    · next hd => exact isPresent_of_isDirectory? hd
    · cases h
    · cases h
  · cases h

theorem makeDirsAt_present (anchor : Anchor) (names : List String) (s : Store)
    (h : (makeDirsAt anchor names s).1 = .ok ()) :
    (makeDirsAt anchor names s).2.IsPresent ⟨anchor, names.reverse⟩ := by
  cases names with
  | nil =>
    unfold makeDirsAt at h ⊢
    split at h
    · next ht => exact makeDir_present ht
    · exact toleratePresent_present h
  | cons name outer =>
    unfold makeDirsAt at h ⊢
    dsimp only at h ⊢
    split at h
    · next ht => exact makeDir_present ht
    · split at h
      · cases h
      · split at h
        · next hu => exact makeDir_present hu
        · cases h
        · exact toleratePresent_present h
    · exact toleratePresent_present h

theorem makeDirs_present (h : (s.makeDirs p).1 = .ok ()) : (s.makeDirs p).2.IsPresent p := by
  have hp := makeDirsAt_present p.anchor p.names.reverse s h
  rwa [List.reverse_reverse] at hp

theorem Opens.present (h : s.Opens p loc) (content : ByteArray) :
    (s.insert loc (.file content)).IsPresent p := by
  have hkeeps := h.keeps content
  obtain ⟨hnul, ⟨hpl, old, hold⟩ | ⟨dir, name, hpl, rfl⟩⟩ := h
  · exact hkeeps.present (isPresent_iff.mpr ⟨hnul, loc, place_creation hpl, by simp [hold]⟩)
  · exact isPresent_of_filled hkeeps (at?_insert_self (by simp)) (.inr ⟨rfl, rfl⟩) hnul hpl

theorem writeText_present {content : Content}
    (h : (s.writeText p content).1 = .ok () ∨ (s.writeText p content).1 = .error .unencodable) :
    (s.writeText p content).2.IsPresent p := by
  rcases s.writeText_cases p content with
    ⟨f, hf, hw⟩ | ⟨loc, hopens, ⟨bytes, -, hw⟩ | ⟨-, hw⟩⟩ <;> rw [hw] at h ⊢
  · rcases h with h | h
    · cases h
    · exact absurd (Except.error.inj h) hf
  · exact hopens.present bytes
  · exact hopens.present .empty

theorem writeBelow_present {content : Content}
    (h : (s.writeBelow p content).1 = .ok () ∨ (s.writeBelow p content).1 = .error .unencodable) :
    (s.writeBelow p content).2.IsPresent p := by
  unfold writeBelow at h ⊢
  split at h
  · next f t he =>
    rcases h with h | h
    · cases h
    · exact absurd (by rw [he]; exact h) (makeDirs_ne_unencodable s p.parent)
  · exact writeText_present h

/-! ## Questions after removals -/

/-- In a store that has less a walk takes the same way, or ends early. -/
theorem Keeps.advance_back (h : Keeps u s) (hs : s.advance aim here names = stretch)
    (hfound : (∃ loc, stretch = .ended (.entry loc)) ∨ ∃ dir target rest,
      stretch = .atLink dir target rest) :
    u.advance aim here names = stretch ∨
      ∃ pl, u.advance aim here names = .ended pl ∧ Place.IsHarmless pl := by
  induction names generalizing here with
  | nil => exact .inl hs
  | cons m more ih =>
    unfold Store.advance at hs ⊢
    cases hd : u.isDirectoryAt here with
    | false => exact .inr ⟨_, rfl, rfl⟩
    | true =>
      have hds := h.isDirectoryAt hd
      simp only [hds, Bool.not_true, Bool.false_eq_true, if_false] at hs ⊢
      split at hs
      · next hdot => rw [if_pos hdot]; exact ih hs
      next hdot =>
      rw [if_neg hdot]
      split at hs
      · next hup => rw [if_pos hup]; exact ih hs
      next hup =>
      rw [if_neg hup]
      split at hs
      · subst hs; simp at hfound
      next hslash =>
      rw [if_neg hslash]
      split at hs
      · subst hs; simp at hfound
      next hlong =>
      rw [if_neg hlong]
      cases hu : u.at? (m :: here) with
      | none =>
        refine .inr ?_
        dsimp only
        split <;> exact ⟨_, rfl, by simp [Place.IsHarmless, Refusal.meansAbsent]⟩
      | some e =>
        obtain ⟨e', he', hsh⟩ := Option.map_eq_some_iff.mp (h _ _ hu)
        rw [he'] at hs
        cases e with
        | link target =>
          cases e' <;> simp only [Entry.shape, reduceCtorEq, Entry.link.injEq] at hsh
          subst hsh
          exact .inl hs
        | file content => 
          cases e' <;> simp only [Entry.shape, reduceCtorEq] at hsh
          exact ih hs
        | directory => 
          cases e' <;> simp only [Entry.shape, reduceCtorEq] at hsh
          exact ih hs

theorem Keeps.walk_back (h : Keeps u s) (hs : s.walk aim here names links = .entry loc) :
    (u.walk aim here names links).IsHarmless := by
  induction links generalizing here names with
  | zero =>
    unfold Store.walk at hs ⊢
    split at hs
    · next hpl =>
      subst hs
      rcases h.advance_back hpl (.inl ⟨loc, rfl⟩) with he | ⟨pl, he, hpl⟩
      · rw [he]; trivial
      · rw [he]; exact hpl
    · cases hs
  | succ links ih =>
    unfold Store.walk at hs ⊢
    split at hs
    · next hpl =>
      subst hs
      rcases h.advance_back hpl (.inl ⟨loc, rfl⟩) with he | ⟨pl, he, hpl⟩
      · rw [he]; trivial
      · rw [he]; exact hpl
    · next d target rest hl =>
      rcases h.advance_back hl (.inr ⟨d, target, rest, rfl⟩) with he | ⟨pl, he, hpl⟩
      · rw [he]; exact ih hs
      · rw [he]; exact hpl

/-- A question about a path that led somewhere before the store shrank is not refused. -/
theorem Keeps.look_back (h : Keeps u s) (hs : s.place aim p = .entry loc) :
    ∃ found, u.look aim p = .ok found := by
  have hw : (u.place aim p).IsHarmless := by
    unfold place at hs ⊢
    split at hs
    · cases hs
    · next hlong => rw [if_neg hlong]; exact h.walk_back hs
  unfold look probe
  cases p.hasNul with
  | true => exact ⟨none, rfl⟩
  | false =>
    cases hpl : u.place aim p with
    | entry l => exact ⟨_, rfl⟩
    | vacant d n => exact ⟨none, rfl⟩
    | refused why =>
      rw [hpl] at hw
      exact ⟨none, by simp [show why.meansAbsent = true from hw]⟩

/-- Removing what was present before the store shrank is not refused, unless it is the root of a
disk from which everything is gone. -/
theorem Keeps.removePath_of_present (h : Keeps u s) (hp : s.IsPresent p)
    (hbare : ¬ u.NamesBareRoot p) : ∃ r, u.removePath p = .ok r := by
  obtain ⟨-, loc, hpl, -⟩ := isPresent_iff.mp hp
  obtain ⟨l, hitself⟩ := place_itself hpl
  obtain ⟨found, hd⟩ := h.look_back hpl
  obtain ⟨there, hl⟩ := h.look_back hitself
  cases hr : u.removePath p with
  | ok r => exact ⟨r, rfl⟩
  | error f =>
    rcases removePath_error_cases hr with hlook | ⟨hroot, -⟩
    · rw [hd] at hlook; cases hlook
    · exact absurd hroot hbare

theorem advance_refused (ha : aim ≠ .creation)
    (h : s.advance aim here names = .ended (.refused why)) :
    why.meansAbsent = true ∨
      why = .nameTooLong ∧ ∃ name ∈ names, nameLimit < name.utf8ByteSize := by
  induction names generalizing here with
  | nil => cases h
  | cons m more ih =>
    unfold advance at h
    repeat' split at h
    all_goals grind [Refusal.meansAbsent]

/-- A stretch ends at a link of the store, with only some of its names left. -/
theorem advance_atLink_spec (h : s.advance aim here names = .atLink dir target rest) :
    (∃ loc, s.at? loc = some (.link target)) ∧ ∀ name ∈ rest, name ∈ names := by
  induction names generalizing here with
  | nil => cases h
  | cons m more ih =>
    unfold advance at h
    repeat' split at h
    all_goals grind

theorem walk_refused (ha : aim ≠ .creation) (h : s.walk aim here names links = .refused why) :
    why.meansAbsent = true ∨ why = .nameTooLong ∧
      ((∃ name ∈ names, nameLimit < name.utf8ByteSize) ∨ s.HasLongLink) := by
  induction links generalizing here names with
  | zero =>
    unfold walk at h
    split at h
    · next hpl => subst h; exact (advance_refused ha hpl).imp_right fun ⟨hw, hn⟩ => ⟨hw, .inl hn⟩
    · cases h; exact .inl rfl
  | succ links ih =>
    unfold walk at h
    split at h
    · next hpl => subst h; exact (advance_refused ha hpl).imp_right fun ⟨hw, hn⟩ => ⟨hw, .inl hn⟩
    · next d target rest hl =>
      obtain ⟨⟨loc, hloc⟩, hrest⟩ := advance_atLink_spec hl
      refine (ih h).imp_right fun ⟨hw, hlong⟩ => ⟨hw, ?_⟩
      rcases hlong with ⟨name, hn, hlong⟩ | hlink
      · rcases List.mem_append.mp hn with hn | hn
        · exact .inr ⟨loc, target, hloc, name, hn, hlong⟩
        · exact .inl ⟨name, hrest name hn, hlong⟩
      · exact .inr hlink

/-- A question about a short path is refused only where a link leads to too long a name. -/
theorem look_error (ha : aim ≠ .creation) (hp : p.IsShort) (h : s.look aim p = .error f) :
    s.HasLongLink := by
  unfold look probe at h
  split at h
  · cases h
  · cases hpl : s.place aim p with
    | entry loc => rw [hpl] at h; cases h
    | vacant dir name => rw [hpl] at h; cases h
    | refused why =>
      rw [hpl] at h
      have hw : why.meansAbsent = false := by
        cases hw : why.meansAbsent with
        | false => rfl
        | true => simp [hw] at h
      rw [place, if_neg (by have := hp.1; omega)] at hpl
      rcases walk_refused ha hpl with habsent | ⟨-, ⟨name, hn, hlong⟩ | hlink⟩
      · rw [hw] at habsent; cases habsent
      · have := hp.2 name hn; omega
      · exact hlink

theorem exists?_error (hp : p.IsShort) (h : s.exists? p = .error f) : s.HasLongLink := by
  unfold exists? at h
  cases hl : s.look .target p with
  | error g => exact look_error (by simp) hp hl
  | ok found => rw [hl] at h; cases h

theorem removePath_error (hp : p.IsShort) (h : s.removePath p = .error f) :
    s.HasLongLink ∨ s.NamesBareRoot p := by
  rcases removePath_error_cases h with hlook | ⟨hroot, -⟩
  · exact .inl (look_error (by decide) hp hlook)
  · exact .inr hroot

end Store

end Scaffold
