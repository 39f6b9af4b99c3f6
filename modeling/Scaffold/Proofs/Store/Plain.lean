import Scaffold.Proofs.Path.Plain

/-!
# Plain stores

A plain store has no links, and every entry in it stands in a directory. There a plain path leads
where its names spell, whatever it is walked for: `descend` goes from name to name, and `place` is
that descent for every path that is not too long (`place_eq_descend`). For a path that fits, the
questions answer by what stands at its place (`exists?_of_fits`).
-/

namespace Scaffold

theorem Path.IsPlain.ne_dots {p : Path} (h : p.IsPlain) {name : String} (hn : name ∈ p.names) :
    name ≠ "" ∧ name ≠ "." ∧ name ≠ ".." :=
  ⟨(h.isRead name hn).1, (h.isRead name hn).2.1, fun e => h.inward (e ▸ hn)⟩

namespace Store

/-- No links, and no entry outside a directory. -/
structure IsPlain (s : Store) : Prop where
  linkless : ∀ loc target, s.at? loc ≠ some (.link target)
  closed : ∀ name dir, (s.at? (name :: dir)).isSome → s.at? dir = some .directory

variable {s t : Store} {loc dir here : Loc} {name : String} {names : List String} {e : Entry}

theorem isDirectoryAt_iff : s.isDirectoryAt loc = true ↔ s.at? loc = some .directory := by
  unfold isDirectoryAt
  cases h : s.at? loc with
  | none => simp
  | some e => cases e <;> simp [Entry.isDirectory]

theorem at?_insert (h : loc ≠ []) (other : Loc) :
    (s.insert loc e).at? other = if other = loc then some e else s.at? other := by
  split
  · next he => subst he; exact at?_insert_self h
  · next he => exact at?_insert_of_ne he

theorem at?_erase (h : loc ≠ []) (other : Loc) :
    (s.erase loc).at? other = if other = loc then none else s.at? other := by
  split
  · next he => subst he; exact at?_erase_self h
  · next he => exact at?_erase_of_ne he

theorem isBare_iff : s.isBare loc = true ↔ ∀ name, s.at? (name :: loc) = none := by
  simp only [isBare, List.all_eq_true, decide_eq_true_eq, at?, List.cons_ne_nil, if_false,
    List.lookup_eq_none_iff, bne_iff_ne]
  constructor
  · intro h name e he hne
    rcases h e he with h | h
    · rw [h] at hne; cases hne
    · rw [← hne] at h; exact h rfl
  · intro h e he
    cases hl : e.1 with
    | nil => exact .inl rfl
    | cons name dir =>
      refine .inr fun hd => h name e he ?_
      rw [hl, ← hd]; rfl

theorem IsPlain.above (hs : s.IsPlain) (h : (s.at? loc).isSome) (hd : dir <:+ loc)
    (hne : dir ≠ loc) : s.at? dir = some .directory := by
  induction loc with
  | nil => exact absurd (List.suffix_nil.mp hd) hne
  | cons name loc ih =>
    have hc := hs.closed name loc h
    rcases List.suffix_cons_iff.mp hd with hd | hd
    · exact absurd hd hne
    · by_cases he : dir = loc
      · rw [he, hc]
      · exact ih (by simp [hc]) hd he

theorem IsPlain.none_below (hs : s.IsPlain) (h : s.at? dir ≠ some .directory) (hd : dir <:+ loc)
    (hne : dir ≠ loc) : s.at? loc = none := by
  cases ha : s.at? loc with
  | none => rfl
  | some e => exact absurd (hs.above (by simp [ha]) hd hne) h

theorem IsPlain.file_or_directory (hs : s.IsPlain) (h : s.at? loc = some e) :
    (∃ content, e = .file content) ∨ e = .directory := by
  cases e with
  | file content => exact .inl ⟨content, rfl⟩
  | directory => exact .inr rfl
  | link target => exact absurd h (hs.linkless loc target)

theorem IsPlain.empty : Store.empty.IsPlain := by
  have hv : ∀ loc, Store.empty.at? loc = if loc = [] then some .directory else none := fun _ => rfl
  refine ⟨fun loc target => ?_, fun name dir h => ?_⟩
  · rw [hv]; split <;> simp
  · simp [hv] at h

/-- A file or a directory can be put where no directory stands, in a directory. -/
theorem IsPlain.insert (hs : s.IsPlain) (hd : s.at? dir = some .directory)
    (hn : s.at? (name :: dir) ≠ some .directory) (he : ∀ target, e ≠ .link target) :
    (s.insert (name :: dir) e).IsPlain := by
  have hv := at?_insert (s := s) (e := e) (List.cons_ne_nil name dir)
  refine ⟨fun loc target => ?_, fun m d h => ?_⟩
  · rw [hv]
    split
    · simpa using he target
    · exact hs.linkless loc target
  · have hself : dir ≠ name :: dir := by simp
    rw [hv] at h ⊢
    split at h
    · next hl => cases hl; rw [if_neg hself, hd]
    · have hc := hs.closed m d h
      split
      · next hl => rw [hl] at hc; exact absurd hc hn
      · exact hc

/-- What has nothing below it can be taken away. -/
theorem IsPlain.erase (hs : s.IsPlain) (hn : loc ≠ []) (h : ∀ name, s.at? (name :: loc) = none) :
    (s.erase loc).IsPlain := by
  have hv := at?_erase (s := s) hn
  refine ⟨fun l target => ?_, fun m d hm => ?_⟩
  · rw [hv]
    split
    · simp
    · exact hs.linkless l target
  · rw [hv] at hm ⊢
    split at hm
    · simp at hm
    · split
      · next hd => rw [hd, h] at hm; simp at hm
      · exact hs.closed m d hm

/-! ## Descending -/

theorem ne_reverse_append {l : Loc} (h : names ≠ []) : l ≠ names.reverse ++ l := by
  intro e
  have hlen := congrArg List.length e
  have hpos := List.length_pos_iff.mpr h
  simp only [List.length_append, List.length_reverse] at hlen
  omega

/-- A walk in a store without links, by names that are no dots. -/
def descend (s : Store) (here : Loc) : List String → Place
  | [] => .entry here
  | name :: rest =>
    if !s.isDirectoryAt here then .refused .notDirectory
    else if nameLimit < name.utf8ByteSize then .refused .nameTooLong
    else match s.at? (name :: here) with
      | none => if rest = [] then .vacant here name else .refused .noEntry
      | some _ => descend s (name :: here) rest

theorem advance_eq_descend (hl : ∀ loc target, s.at? loc ≠ some (.link target)) (aim : Aim)
    (hn : ∀ name ∈ names, name ≠ "" ∧ name ≠ "." ∧ name ≠ "..") :
    advance s aim here names = .ended (s.descend here names) := by
  induction names generalizing here with
  | nil => rfl
  | cons name rest ih =>
    obtain ⟨h1, h2, h3⟩ := hn name List.mem_cons_self
    have hrest : rest.all (· = "") = decide (rest = []) := by
      cases rest with
      | nil => rfl
      | cons m rest => simp [(hn m (by simp)).1]
    have hdot : ¬ (name = "." ∨ name = "") := by simp [h1, h2]
    have hslash : ¬ (aim = .creation ∧ rest ≠ [] ∧ rest.all (· = "") = true) := by
      rw [hrest]; simp
    unfold advance descend
    rw [if_neg hdot, if_neg h3, if_neg hslash]
    split
    · rfl
    split
    · rfl
    cases ha : s.at? (name :: here) with
    | none => simp only [hrest, decide_eq_true_eq]; split <;> rfl
    | some e =>
      cases e with
      | link target => exact absurd ha (hl _ target)
      | file content => exact ih fun m hm => hn m (List.mem_cons_of_mem _ hm)
      | directory => exact ih fun m hm => hn m (List.mem_cons_of_mem _ hm)

theorem place_eq_descend (hs : s.IsPlain) {p : Path} (hp : p.IsPlain) (aim : Aim) :
    s.place aim p =
      if pathLimit < p.text.utf8ByteSize then .refused .nameTooLong else s.descend [] p.names := by
  unfold place
  split
  · rfl
  · rw [linkLimit, walk, advance_eq_descend hs.linkless aim fun _ hn => hp.ne_dots hn]

/-- An entry is found by its names only if none is too long. -/
theorem descend_entry (h : s.descend here names = .entry loc) :
    loc = names.reverse ++ here ∧ (∀ name ∈ names, name.utf8ByteSize ≤ nameLimit) ∧
      (names ≠ [] → (s.at? loc).isSome) := by
  induction names generalizing here with
  | nil => cases h; simp
  | cons name rest ih =>
    unfold descend at h
    split at h
    · cases h
    split at h
    · cases h
    next hlong =>
    split at h
    · split at h <;> cases h
    next e he =>
    obtain ⟨hloc, hshort, hsome⟩ := ih h
    refine ⟨by simp [hloc], fun m hm => ?_, fun _ => ?_⟩
    · rcases List.mem_cons.mp hm with rfl | hm
      · omega
      · exact hshort m hm
    · cases rest with
      | nil => simp [hloc, he]
      | cons m rest => exact hsome (by simp)

theorem descend_vacant (h : s.descend here names = .vacant dir name) :
    name :: dir = names.reverse ++ here ∧ (∀ name ∈ names, name.utf8ByteSize ≤ nameLimit) ∧
      s.at? (name :: dir) = none ∧ s.at? dir = some .directory := by
  induction names generalizing here with
  | nil => cases h
  | cons m rest ih =>
    unfold descend at h
    split at h
    · cases h
    next hd =>
    split at h
    · cases h
    next hlong =>
    split at h
    · next ha =>
      split at h
      · next hr =>
        cases h
        subst hr
        refine ⟨by simp, fun m hm => ?_, ha, isDirectoryAt_iff.mp (by simpa using hd)⟩
        rw [List.mem_singleton.mp hm]; omega
      · cases h
    · obtain ⟨hloc, hshort, hrest⟩ := ih h
      refine ⟨by simp [hloc], fun m' hm => ?_, hrest⟩
      rcases List.mem_cons.mp hm with rfl | hm
      · omega
      · exact hshort m' hm

/-- A descent is refused for a name that is too long, or because nothing is there. -/
theorem descend_refused (hs : s.IsPlain) {why : Refusal}
    (h : s.descend here names = .refused why) :
    (why = .nameTooLong ∧ ∃ name ∈ names, nameLimit < name.utf8ByteSize) ∨
      (why.meansAbsent = true ∧ s.at? (names.reverse ++ here) = none) := by
  induction names generalizing here with
  | nil => cases h
  | cons name rest ih =>
    unfold descend at h
    split at h
    · next hd =>
      cases h
      have hhere : s.at? here ≠ some .directory := by
        rw [Ne, ← isDirectoryAt_iff]; simpa using hd
      exact .inr ⟨rfl, hs.none_below hhere (List.suffix_append _ _)
        (ne_reverse_append (List.cons_ne_nil name rest))⟩
    split at h
    · next hlong => cases h; exact .inl ⟨rfl, name, List.mem_cons_self, hlong⟩
    have hcons : (name :: rest).reverse ++ here = rest.reverse ++ name :: here := by simp
    rw [hcons]
    split at h
    · next ha =>
      split at h
      · cases h
      · next hr =>
        cases h
        have hnext : s.at? (name :: here) ≠ some .directory := by simp [ha]
        exact .inr ⟨rfl, hs.none_below hnext (List.suffix_append _ _) (ne_reverse_append hr)⟩
    · rcases ih h with ⟨hw, m, hm, hlong⟩ | hn
      · exact .inl ⟨hw, m, List.mem_cons_of_mem _ hm, hlong⟩
      · exact .inr hn

/-! ## Where plain paths lead -/

section Place

variable {p : Path} {aim : Aim}

theorem place_entry (hs : s.IsPlain) (hp : p.IsPlain) (h : s.place aim p = .entry loc) :
    loc = p.loc ∧ (s.at? p.loc).isSome ∧ p.text.utf8ByteSize ≤ pathLimit ∧
      ∀ name ∈ p.names, name.utf8ByteSize ≤ nameLimit := by
  rw [place_eq_descend hs hp] at h
  split at h
  · cases h
  next hlong =>
  obtain ⟨hloc, hshort, hsome⟩ := descend_entry h
  rw [List.append_nil] at hloc
  refine ⟨hloc, ?_, by omega, hshort⟩
  by_cases hn : p.names = []
  · simp [Path.loc, hn, at?_root]
  · rw [← hsome hn, hloc]; rfl

theorem place_vacant (hs : s.IsPlain) (hp : p.IsPlain) (h : s.place aim p = .vacant dir name) :
    name :: dir = p.loc ∧ s.at? p.loc = none ∧ s.at? dir = some .directory ∧
      p.text.utf8ByteSize ≤ pathLimit ∧ ∀ name ∈ p.names, name.utf8ByteSize ≤ nameLimit := by
  rw [place_eq_descend hs hp] at h
  split at h
  · cases h
  next hlong =>
  obtain ⟨hloc, hshort, hnone, hdir⟩ := descend_vacant h
  rw [List.append_nil] at hloc
  exact ⟨hloc, by rw [← hnone, hloc]; rfl, hdir, by omega, hshort⟩

theorem probe_ok (hs : s.IsPlain) (hp : p.IsPlain) {found : Option (Loc × Entry)}
    (h : s.probe aim p = .ok found) :
    found = if p.hasNul then none else (s.at? p.loc).map (p.loc, ·) := by
  unfold probe at h
  split at h
  · next hn => cases h; simp [hn]
  next hn =>
  rw [if_neg hn]
  split at h
  · next loc hpl =>
    obtain ⟨rfl, -⟩ := place_entry hs hp hpl
    cases h; rfl
  · next hpl =>
    obtain ⟨-, hnone, -⟩ := place_vacant hs hp hpl
    cases h; simp [hnone]
  · next why hpl =>
    split at h
    · next habsent =>
      cases h
      rw [place_eq_descend hs hp] at hpl
      split at hpl
      · cases hpl; simp [Refusal.meansAbsent] at habsent
      rcases descend_refused hs hpl with ⟨rfl, -⟩ | ⟨-, hnone⟩
      · simp [Refusal.meansAbsent] at habsent
      · simp only [List.append_nil] at hnone
        rw [Path.loc, hnone]; rfl
    · cases h

theorem probe_of_fits (hs : s.IsPlain) (hp : p.IsPlain) (hf : p.Fits) :
    s.probe aim p = .ok ((s.at? p.loc).map (p.loc, ·)) := by
  have hok : ∃ found, s.probe aim p = .ok found := by
    unfold probe
    rw [if_neg (by simp [hf.noNul])]
    split
    · exact ⟨_, rfl⟩
    · exact ⟨_, rfl⟩
    · next why hpl =>
      rw [place_eq_descend hs hp, if_neg (by have := hf.short; omega)] at hpl
      rcases descend_refused hs hpl with ⟨-, name, hn, hlong⟩ | ⟨habsent, -⟩
      · have := hf.names name hn; omega
      · exact ⟨none, by rw [if_pos habsent]⟩
  obtain ⟨found, hfound⟩ := hok
  rw [hfound, probe_ok hs hp hfound, if_neg (by simp [hf.noNul])]

theorem exists?_of_fits (hs : s.IsPlain) (hp : p.IsPlain) (hf : p.Fits) :
    s.exists? p = .ok (s.at? p.loc).isSome := by
  rw [exists?, look, probe_of_fits hs hp hf]
  cases s.at? p.loc <;> rfl

theorem exists?_ok (hs : s.IsPlain) (hp : p.IsPlain) {b : Bool} (h : s.exists? p = .ok b) :
    b = if p.hasNul then false else (s.at? p.loc).isSome := by
  unfold exists? look at h
  cases hpr : s.probe .target p with
  | error why => rw [hpr] at h; cases h
  | ok found =>
    rw [hpr] at h
    cases h
    rw [probe_ok hs hp hpr]
    split
    · rfl
    · cases s.at? p.loc <;> rfl

theorem exists?_true (hs : s.IsPlain) (hp : p.IsPlain) (h : s.exists? p = .ok true) :
    (s.at? p.loc).isSome := by
  have hthere := exists?_ok hs hp h
  split at hthere
  · cases hthere
  · exact hthere.symm

theorem exists?_false (hs : s.IsPlain) (hp : p.IsPlain) (h : s.exists? p = .ok false)
    (hnul : p.hasNul = false) : s.at? p.loc = none := by
  have hthere := exists?_ok hs hp h
  rw [hnul] at hthere
  simpa using hthere

theorem isDirectory?_of_fits (hs : s.IsPlain) (hp : p.IsPlain) (hf : p.Fits) :
    s.isDirectory? p = .ok (s.isDirectoryAt p.loc) := by
  rw [isDirectory?, look, probe_of_fits hs hp hf, isDirectoryAt]
  cases s.at? p.loc <;> rfl

end Place

end Store

end Scaffold
