import Scaffold.Proofs.Store.Aims
import Scaffold.Proofs.Store.Growth
import Scaffold.Proofs.Store.Plain

/-!
# Removing

`isLoose` holds at the places that a removal can empty: a file, a link, or a directory with nothing
in it. A removal asks four questions, which come to one (`removePath_of_look`): it takes away
the one entry that its path leads to, a last link not followed, if that is loose, and nothing
otherwise (`removePath_ok`); so an entry is lost to removals in a row exactly
if one of them strikes it when its turn comes (`clear_lost`). In a plain store the place that the
path spells decides (`removePath_of_fits`).
-/

namespace Scaffold.Store

/-- What stands at a place can be taken away. -/
def isLoose (s : Store) (loc : Loc) : Bool :=
  match s.at? loc with
  | none => false
  | some .directory => s.isBare loc && !loc.isEmpty
  | some _ => true

/-- Removing a path takes a place away. -/
def Strikes (s : Store) (p : Path) (loc : Loc) : Prop :=
  p.hasNul = false ∧ s.place .itself p = .entry loc ∧ s.isLoose loc = true

variable {s t : Store} {p : Path} {loc : Loc} {e : Entry} {b : Bool}

theorem isLoose_ne_nil (h : s.isLoose loc = true) : loc ≠ [] := by
  rintro rfl
  simp [isLoose, at?_root] at h

theorem isLoose_isSome (h : s.isLoose loc = true) : (s.at? loc).isSome := by
  unfold isLoose at h
  cases ha : s.at? loc <;> simp_all

theorem directory_of_not_loose (h : s.isLoose loc = false) (hs : (s.at? loc).isSome) :
    s.at? loc = some .directory := by
  obtain ⟨e, he⟩ := Option.isSome_iff_exists.mp hs
  cases e with
  | directory => exact he
  | file content => simp [isLoose, he] at h
  | link target => simp [isLoose, he] at h

theorem erase_keeps (h : loc ≠ []) : Keeps (s.erase loc) s := by
  intro l e he
  rw [at?_erase h] at he
  split at he
  · cases he
  · rw [he]; rfl

theorem probe_eq_some {aim : Aim} :
    s.probe aim p = .ok (some (loc, e)) ↔
      p.hasNul = false ∧ s.place aim p = .entry loc ∧ s.at? loc = some e := by
  unfold probe
  cases p.hasNul with
  | true => simp
  | false =>
    simp only [Bool.false_eq_true, if_false, true_and]
    cases s.place aim p with
    | entry l =>
      simp only [Except.ok.injEq, Option.map_eq_some_iff, Prod.mk.injEq, Place.entry.injEq]
      grind
    | vacant dir name => simp
    | refused why => simp only [reduceCtorEq, false_and, iff_false]; split <;> simp

def loosen (s : Store) (loc : Loc) : Store := if s.isLoose loc then s.erase loc else s

/-- The path names the root of a disk with nothing on it: the one empty directory that cannot be
removed. -/
def NamesBareRoot (s : Store) (p : Path) : Prop :=
  p.hasNul = false ∧ s.place .itself p = .entry [] ∧ s.isBare [] = true

instance : Decidable (s.NamesBareRoot p) := by unfold NamesBareRoot; infer_instance

theorem look_eq_some {aim : Aim} :
    s.look aim p = .ok (some (loc, e)) ↔
      p.hasNul = false ∧ s.place aim p = .entry loc ∧ s.at? loc = some e := by
  rw [← probe_eq_some, look]
  cases s.probe aim p <;> simp

/-- What the path itself names, if it is no link, is what it leads to. -/
theorem look_target {found : Option (Loc × Entry)} (h : s.look .itself p = .ok found)
    (hn : ∀ e ∈ found, e.2.isLink = false) : s.look .target p = .ok found := by
  rcases place_itself_cases (s := s) (p := p) with he | ⟨l, target, hl, hat⟩
  · unfold look probe at h ⊢
    rwa [he]
  · cases hnul : p.hasNul with
    | true =>
      unfold look probe at h ⊢
      rw [hnul] at h ⊢
      exact h
    | false =>
      rw [look_eq_some.mpr ⟨hnul, hl, hat⟩] at h
      cases h
      cases hn _ rfl

/-- A removal by the answers to its questions. -/
theorem removePath_of_answers {d l x : Bool} (hd : s.isDirectory? p = .ok d)
    (hl : s.isLink? p = .ok l) (hx : s.exists? p = .ok x) :
    s.removePath p =
      if d && !l then do
        if ← s.isEmptyDirectory? p then return (true, ← s.removeDirectory p) else return (false, s)
      else if x || l then (s.removeFile p).map (true, ·)
      else .ok (false, s) := by
  unfold removePath
  simp only [andM, orM, hd, hl, hx, bind, Except.bind, Functor.map, Except.map, pure, Except.pure,
    toBool]
  cases d <;> cases l <;> cases x <;> rfl

theorem exists?_of_isDirectory? {d : Bool} (hd : s.isDirectory? p = .ok d) :
    ∃ x, s.exists? p = .ok x := by
  unfold isDirectory? at hd
  unfold exists?
  cases hl : s.look .target p with
  | error f => rw [hl] at hd; cases hd
  | ok found => exact ⟨_, rfl⟩

theorem removePath_of_none (h : s.look .itself p = .ok none) :
    s.removePath p = .ok (false, s) := by
  have htarget := look_target h (by simp)
  rw [removePath_of_answers (d := false) (l := false) (x := false)
    (by rw [isDirectory?, htarget]; rfl) (by rw [isLink?, h]; rfl) (by rw [exists?, htarget]; rfl)]
  rfl

theorem removePath_of_directory (h : s.look .itself p = .ok (some (loc, .directory))) :
    s.removePath p =
      if loc = [] ∧ s.isBare [] then
        .error (.refused (if p.names.getLast? = some ".." then .notEmpty else .busy) p.text)
      else .ok (s.isLoose loc, s.loosen loc) := by
  obtain ⟨hnul, hpl, he⟩ := look_eq_some.mp h
  have htarget := look_target h (by simp [Entry.isLink])
  have hdir : s.isDirectoryAt loc = true := isDirectoryAt_iff.mpr he
  have hempty : s.isEmptyDirectory? p = .ok (s.isBare loc) := by
    simp [isEmptyDirectory?, hnul, (look_eq_some.mp htarget).2.1, hdir]
  rw [removePath_of_answers (d := true) (l := false) (x := true)
    (by rw [isDirectory?, htarget]; rfl) (by rw [isLink?, h]; rfl) (by rw [exists?, htarget]; rfl),
    if_pos (by rfl), hempty]
  cases hb : s.isBare loc with
  | false =>
    have hloose : s.isLoose loc = false := by simp [isLoose, he, hb]
    rw [if_neg (by rintro ⟨rfl, hbare⟩; rw [hb] at hbare; cases hbare)]
    simp [hloose, loosen, bind, Except.bind, pure, Except.pure]
  | true =>
    by_cases hroot : loc = []
    · subst hroot
      rw [if_pos ⟨rfl, hb⟩]
      simp [removeDirectory, hnul, hpl, hdir, bind, Except.bind]
    · have hloose : s.isLoose loc = true := by simp [isLoose, he, hb, hroot]
      rw [if_neg fun hbare => hroot hbare.1]
      simp [removeDirectory, hnul, hpl, hdir, hb, hroot, hloose, loosen, bind, Except.bind, pure,
        Except.pure]

theorem removePath_of_other {d : Bool} (hd : s.isDirectory? p = .ok d)
    (h : s.look .itself p = .ok (some (loc, e))) (hne : e ≠ .directory) :
    s.removePath p = .ok (s.isLoose loc, s.loosen loc) := by
  obtain ⟨hnul, hpl, he⟩ := look_eq_some.mp h
  have hdir : s.isDirectoryAt loc = false := by
    rw [← Bool.not_eq_true, isDirectoryAt_iff, he]
    simpa using hne
  have hloose : s.isLoose loc = true := by
    cases e with
    | directory => exact absurd rfl hne
    | _ => simp [isLoose, he]
  have hremove : s.removeFile p = .ok (s.erase loc) := by
    simp [removeFile, hnul, hpl, hdir]
  have hlink : s.isLink? p = .ok e.isLink := by rw [isLink?, h]; rfl
  obtain ⟨x, hx⟩ := exists?_of_isDirectory? hd
  rw [removePath_of_answers hd hlink hx, hremove, loosen, hloose]
  cases e with
  | directory => exact absurd rfl hne
  | link target => simp [Entry.isLink, Except.map]
  | file content =>
    have htarget := look_target h (by simp [Entry.isLink])
    rw [isDirectory?, htarget] at hd
    rw [exists?, htarget] at hx
    cases hd
    cases hx
    simp [Entry.isDirectory, Entry.isLink, Except.map]

/-- A removal asks first what the path leads to. -/
theorem isDirectory?_of_removePath (h : s.removePath p = .ok (b, t)) :
    ∃ d, s.isDirectory? p = .ok d := by
  cases hd : s.isDirectory? p with
  | ok d => exact ⟨d, rfl⟩
  | error f => simp [removePath, andM, hd, bind, Except.bind] at h

theorem look_target_error {f : Fault} (h : s.look .itself p = .error f) :
    s.look .target p = .error f := by
  unfold look probe at h ⊢
  cases hnul : p.hasNul with
  | true => simp [hnul] at h
  | false =>
    rw [hnul] at h
    cases hpl : s.place .itself p with
    | refused why => rw [place_itself_refused hpl]; simpa [hpl] using h
    | entry loc => simp [hpl] at h
    | vacant dir name => simp [hpl] at h

theorem removePath_of_target_error {f : Fault} (h : s.look .target p = .error f) :
    s.removePath p = .error f := by
  have hd : s.isDirectory? p = .error f := by rw [isDirectory?, h]; rfl
  simp [removePath, andM, hd, bind, Except.bind]

theorem removePath_of_error {f : Fault} (h : s.look .itself p = .error f) :
    s.removePath p = .error f :=
  removePath_of_target_error (look_target_error h)

/-- **The four questions of a removal come to one.** If it is not refused what the path leads to,
a removal goes by what the path itself names: that is taken away if it can be, and only the root of
an empty disk is refused then. -/
theorem removePath_of_look {d : Bool} (hd : s.isDirectory? p = .ok d)
    (h : s.look .itself p = .ok (some (loc, e))) : s.removePath p =
      if loc = [] ∧ s.isBare [] then
        .error (.refused (if p.names.getLast? = some ".." then .notEmpty else .busy) p.text)
      else .ok (s.isLoose loc, s.loosen loc) := by
  by_cases hdir : e = .directory
  · subst hdir
    exact removePath_of_directory h
  · rw [removePath_of_other hd h hdir, if_neg]
    rintro ⟨rfl, -⟩
    have he := (look_eq_some.mp h).2.2
    rw [at?_root] at he
    cases he
    exact hdir rfl

/-- A removal is refused with the question what the path leads to, or for the root. -/
theorem removePath_error_cases {f : Fault} (h : s.removePath p = .error f) :
    s.look .target p = .error f ∨ s.NamesBareRoot p ∧
      f = .refused (if p.names.getLast? = some ".." then .notEmpty else .busy) p.text := by
  cases ht : s.look .target p with
  | error g => rw [removePath_of_target_error ht] at h; cases h; exact .inl rfl
  | ok found =>
    have hd : s.isDirectory? p = .ok (found.any fun e => e.2.isDirectory) := by
      rw [isDirectory?, ht]; rfl
    cases hl : s.look .itself p with
    | error g => rw [look_target_error hl] at ht; cases ht
    | ok there =>
      cases there with
      | none => rw [removePath_of_none hl] at h; cases h
      | some there =>
        obtain ⟨loc, e⟩ := there
        rw [removePath_of_look hd hl] at h
        split at h
        · next hroot =>
          obtain ⟨rfl, hbare⟩ := hroot
          obtain ⟨hnul, hpl, -⟩ := look_eq_some.mp hl
          cases h
          exact .inr ⟨⟨hnul, hpl, hbare⟩, rfl⟩
        · cases h

theorem Strikes.unique {other : Loc} (h1 : s.Strikes p loc) (h2 : s.Strikes p other) :
    loc = other := by
  have := h1.2.1.symm.trans h2.2.1
  cases this; rfl

/-- A removal that is not refused takes away what it strikes, and nothing else. -/
theorem removePath_ok (h : s.removePath p = .ok (b, t)) :
    (∃ loc, s.Strikes p loc ∧ b = true ∧ t = s.erase loc) ∨
      (b = false ∧ t = s ∧ ∀ loc, ¬ s.Strikes p loc) := by
  cases hl : s.look .itself p with
  | error f => rw [removePath_of_error hl] at h; cases h
  | ok found =>
    cases found with
    | none =>
      rw [removePath_of_none hl] at h
      cases h
      refine .inr ⟨rfl, rfl, ?_⟩
      rintro loc ⟨hnul, hpl, hloose⟩
      obtain ⟨e, he⟩ := Option.isSome_iff_exists.mp (isLoose_isSome hloose)
      rw [look_eq_some.mpr ⟨hnul, hpl, he⟩] at hl
      cases hl
    | some found =>
      obtain ⟨loc, e⟩ := found
      obtain ⟨hnul, hpl, -⟩ := look_eq_some.mp hl
      obtain ⟨d, hd⟩ := isDirectory?_of_removePath h
      rw [removePath_of_look hd hl] at h
      split at h
      · cases h
      cases h
      cases hloose : s.isLoose loc with
      | true => exact .inl ⟨loc, ⟨hnul, hpl, hloose⟩, rfl, by simp [loosen, hloose]⟩
      | false =>
        refine .inr ⟨rfl, by simp [loosen, hloose], ?_⟩
        rintro l ⟨-, hpl', hloose'⟩
        cases hpl.symm.trans hpl'
        rw [hloose] at hloose'; cases hloose'

/-! ## Removals in a row -/

/-- Removes what paths lead to, one after the other, unless a removal is refused. -/
def clear (s : Store) : List Path → Except Fault Store
  | [] => .ok s
  | p :: ps => match s.removePath p with
    | .error f => .error f
    | .ok (_, s) => clear s ps

theorem clear_append (s : Store) (ps qs : List Path) :
    s.clear (ps ++ qs) = match s.clear ps with
      | .error f => .error f
      | .ok s => s.clear qs := by
  induction ps generalizing s with
  | nil => rfl
  | cons p ps ih =>
    simp only [List.cons_append, clear]
    cases s.removePath p with
    | error f => rfl
    | ok r => exact ih r.2

theorem removePath_keeps (h : s.removePath p = .ok (b, t)) : Keeps t s := by
  rcases removePath_ok h with ⟨loc, ⟨-, -, hloose⟩, -, rfl⟩ | ⟨-, rfl, -⟩
  · exact erase_keeps (isLoose_ne_nil hloose)
  · exact .refl _

theorem clear_keeps {ps : List Path} (h : s.clear ps = .ok t) : Keeps t s := by
  induction ps generalizing s with
  | nil => cases h; exact .refl _
  | cons p ps ih =>
    unfold clear at h
    split at h
    · cases h
    · next b u hu => exact (ih h).trans (removePath_keeps hu)

theorem removePath_lost (h : s.removePath p = .ok (b, t)) (hs : (s.at? loc).isSome) :
    t.at? loc = none ↔ s.Strikes p loc := by
  rcases removePath_ok h with ⟨l, hl, -, rfl⟩ | ⟨-, rfl, hn⟩
  · rw [at?_erase (isLoose_ne_nil hl.2.2)]
    split
    · next he => rw [he]; exact iff_of_true rfl hl
    · next hne =>
      refine iff_of_false (fun h => ?_) fun hs => hne (hs.unique hl)
      rw [h] at hs; cases hs
  · refine iff_of_false (fun h => ?_) (hn loc)
    rw [h] at hs; cases hs

/-- Of removals in a row one takes a place away when its turn comes. -/
def IsStruck (s : Store) (ps : List Path) (loc : Loc) : Prop :=
  ∃ done p rest u, ps = done ++ p :: rest ∧ s.clear done = .ok u ∧ u.Strikes p loc

/-- What is struck is what a path led to before all removals. -/
theorem IsStruck.place {ps : List Path} (h : s.IsStruck ps loc) :
    ∃ p ∈ ps, s.place .itself p = .entry loc := by
  obtain ⟨done, p, rest, u, rfl, hu, -, hp, -⟩ := h
  exact ⟨p, by simp, (clear_keeps hu).place_entry hp⟩

theorem isStruck_cons {ps : List Path} (h : s.removePath p = .ok (b, t)) :
    s.IsStruck (p :: ps) loc ↔ s.Strikes p loc ∨ t.IsStruck ps loc := by
  constructor
  · rintro ⟨done, q, rest, u, hps, hu, hq⟩
    cases done with
    | nil =>
      cases hps
      cases hu
      exact .inl hq
    | cons p' done =>
      rw [List.cons_append, List.cons.injEq] at hps
      obtain ⟨rfl, rfl⟩ := hps
      unfold clear at hu
      rw [h] at hu
      exact .inr ⟨done, q, rest, u, rfl, hu, hq⟩
  · rintro (hstrike | ⟨done, q, rest, u, rfl, hu, hq⟩)
    · exact ⟨[], p, ps, s, rfl, rfl, hstrike⟩
    · refine ⟨p :: done, q, rest, u, rfl, ?_, hq⟩
      unfold clear
      rw [h]
      exact hu

/-- An entry is lost to removals in a row if one of them strikes it, and only then. -/
theorem clear_lost {ps : List Path} (h : s.clear ps = .ok t) (hs : (s.at? loc).isSome) :
    t.at? loc = none ↔ s.IsStruck ps loc := by
  induction ps generalizing s with
  | nil =>
    cases h
    refine iff_of_false (fun h => ?_) (by simp [IsStruck])
    rw [h] at hs; cases hs
  | cons p ps ih =>
    unfold clear at h
    split at h
    · cases h
    next b u hu =>
    rw [isStruck_cons hu]
    by_cases hstrike : s.Strikes p loc
    · have hgone : u.at? loc = none := (removePath_lost hu hs).mpr hstrike
      exact iff_of_true ((clear_keeps h).at?_eq_none hgone) (.inl hstrike)
    · have hsome : (u.at? loc).isSome := by
        rw [← removePath_lost hu hs] at hstrike
        exact Option.isSome_iff_ne_none.mpr hstrike
      rw [ih h hsome]
      exact (or_iff_right hstrike).symm

/-! ## Removals in a plain store -/

theorem isLoose_iff (hs : s.IsPlain) : s.isLoose loc = true ↔
    loc ≠ [] ∧ (s.at? loc).isSome ∧ ∀ name, s.at? (name :: loc) = none := by
  constructor
  · intro h
    refine ⟨isLoose_ne_nil h, isLoose_isSome h, fun name => ?_⟩
    by_cases hd : s.at? loc = some .directory
    · simp only [isLoose, hd, Bool.and_eq_true] at h
      exact isBare_iff.mp h.1 name
    · exact hs.none_below hd (List.suffix_cons name loc) (by simp)
  · rintro ⟨hne, hsome, hbare⟩
    obtain ⟨e, he⟩ := Option.isSome_iff_exists.mp hsome
    rcases hs.file_or_directory he with ⟨_, rfl⟩ | rfl
    · simp [isLoose, he]
    · simp [isLoose, he, isBare_iff.mpr hbare, hne]

theorem loosen_isPlain (hs : s.IsPlain) (loc : Loc) : (s.loosen loc).IsPlain := by
  unfold loosen
  split
  · next h =>
    obtain ⟨hne, -, hbare⟩ := (isLoose_iff hs).mp h
    exact hs.erase hne hbare
  · exact hs

theorem at?_loosen_of_ne {other : Loc} (h : other ≠ loc) :
    (s.loosen loc).at? other = s.at? other := by
  unfold loosen
  split
  · exact at?_erase_of_ne h
  · rfl

theorem at?_loosen_self (h : s.isLoose loc = true) : (s.loosen loc).at? loc = none := by
  rw [loosen, if_pos h, at?_erase_self (isLoose_ne_nil h)]

theorem loosen_of_not_loose (h : s.isLoose loc = false) : s.loosen loc = s := by
  rw [loosen, if_neg (by simp [h])]

theorem removePath_of_fits (hs : s.IsPlain) (hp : p.IsPlain) (hf : p.Fits)
    (hroot : ¬ (p.loc = [] ∧ s.isBare [] = true)) :
    s.removePath p = .ok (s.isLoose p.loc, s.loosen p.loc) := by
  have hl : s.look .itself p = .ok ((s.at? p.loc).map (p.loc, ·)) := by
    rw [look, probe_of_fits hs hp hf]; rfl
  cases he : s.at? p.loc with
  | none =>
    rw [he] at hl
    rw [removePath_of_none hl]
    simp [loosen, isLoose, he]
  | some e =>
    rw [he] at hl
    rw [removePath_of_look (isDirectory?_of_fits hs hp hf) hl, if_neg hroot]

/-- Whatever comes of a removal, it empties at most the place that the path spells. -/
theorem removePath_plain (hs : s.IsPlain) (hp : p.IsPlain) (h : s.removePath p = .ok (b, t)) :
    t = s ∨ (p.hasNul = false ∧ t = s.erase p.loc ∧ s.isLoose p.loc = true) := by
  rcases removePath_ok h with ⟨loc, ⟨hnul, hpl, hloose⟩, -, rfl⟩ | ⟨-, rfl, -⟩
  · obtain ⟨rfl, -⟩ := place_entry hs hp hpl
    exact .inr ⟨hnul, rfl, hloose⟩
  · exact .inl rfl

end Scaffold.Store
