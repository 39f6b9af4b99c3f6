import Mathlib.Data.List.Induction
import Mathlib.Data.List.Infix
import Scaffold.Proofs.Run.Rollback
import Scaffold.Proofs.Store.Linkless
import Scaffold.Proofs.Store.Presence

/-!
# Undoing a list of paths

`Run.undo` takes any list of paths, not only a ledger. In a plain store it sweeps the places that
the paths name, unless it comes to a path that is too long (`removePath_of_plain`, `removeAll_ok`).
If every listed place comes after the listed places above it (`AncestorsFirst`), all goes that can
go: of the listed entries just the directories stay below which something is not listed
(`at?_sweep_reverse_eq_none_iff`), and undoing the list again removes nothing. Main statement:
`undo_listed`.
-/

namespace Scaffold

open Store

/-- The place that a path names; a path with a NUL names none. -/
def Path.place? (p : Path) : Option Loc := if p.hasNul then none else some p.loc

/-- The places that texts name, in their order. -/
def listed (keys : List String) : List Loc := keys.filterMap fun key => (Path.ofString key).place?

/-- With every place each initial part of a list holds all listed places above it. -/
def AncestorsFirst (locs : List Loc) : Prop :=
  ∀ older ∈ locs.inits, ∀ loc ∈ older, ∀ dir ∈ locs, dir <:+ loc → dir ∈ older

instance (locs : List Loc) : Decidable (AncestorsFirst locs) :=
  decidable_of_iff (locs.inits.all fun older => older.all fun loc => locs.all fun dir =>
    !dir.isSuffixOf loc || older.contains dir)
    (by simp [AncestorsFirst, imp_iff_not_or, -List.mem_inits, ← List.isSuffixOf_iff_suffix])

/-- The given paths were removed from one store to the other, and nothing else changed. -/
structure HasRemoved (s : Store) (keys removed : List String) (t : Store) : Prop where
  kept : ∀ loc e, t.at? loc = some e → s.at? loc = some e
  unlisted : ∀ loc, loc ∉ listed keys → t.at? loc = s.at? loc
  newestFirst : removed.Sublist keys.reverse
  once : (removed.map fun key => (Path.ofString key).loc).Nodup
  exact : ∀ loc, loc ∈ removed.map (fun key => (Path.ofString key).loc) ↔
    (s.at? loc).isSome ∧ t.at? loc = none

/-- What could be removed of the listed paths was. -/
structure IsRolledBack (s : Store) (keys removed : List String) (t : Store) : Prop
    extends HasRemoved s keys removed t where
  stays : ∀ loc ∈ listed keys, (t.at? loc).isSome ↔ s.at? loc = some .directory ∧
    ∃ below, loc <:+ below ∧ loc ≠ below ∧ (s.at? below).isSome ∧ below ∉ listed keys
  again : Run.undo t keys = (.ok [], t)

variable {s t u : Store} {p : Path} {aim : Aim} {here loc dir : Loc} {names : List String}
  {locs : List Loc} {key : String} {keys older newer removed : List String} {f : Fault}

namespace AncestorsFirst

variable {x : Loc} {inner : List Loc}

theorem of_concat (h : AncestorsFirst (inner ++ [x])) : AncestorsFirst inner := by
  intro older ho l hl d hd hdl
  rw [List.mem_inits] at ho
  exact h older ((List.mem_inits _ _).mpr (ho.trans (List.prefix_append inner [x]))) l hl d
    (List.mem_append_left _ hd) hdl

/-- A place that comes after one below it is listed before it as well. -/
theorem mem_of_above (h : AncestorsFirst (inner ++ [x])) (hl : loc ∈ inner) (hx : x <:+ loc) :
    x ∈ inner :=
  h inner ((List.mem_inits _ _).mpr (List.prefix_append inner [x])) loc hl x (by simp) hx

end AncestorsFirst

/-- From within outwards a sweep takes away every entry below which all is listed. -/
theorem at?_sweep_reverse_eq_none_iff (hs : s.IsPlain) (h : AncestorsFirst locs) (hroot : [] ∉ locs)
    (hsome : (s.at? loc).isSome) : (s.sweep locs.reverse).at? loc = none ↔
      ∀ below, loc <:+ below → (s.at? below).isSome → below ∈ locs := by
  induction locs using List.reverseRecOn generalizing s with
  | nil =>
    refine iff_of_false (fun hnone => ?_) fun hall => ?_
    · rw [List.reverse_nil, show s.sweep [] = s from rfl] at hnone
      rw [hnone] at hsome
      cases hsome
    · exact List.not_mem_nil (hall loc List.suffix_rfl hsome)
  | append_singleton inner x ih =>
    have hx : x ≠ [] := by
      rintro rfl
      exact hroot (by simp)
    have hinner : [] ∉ inner := fun hin => hroot (List.mem_append_left _ hin)
    rw [List.reverse_append, List.reverse_singleton, List.singleton_append]
    change ((s.loosen x).sweep inner.reverse).at? loc = none ↔ _
    cases hloose : s.isLoose x with
    | false =>
      rw [loosen_of_not_loose hloose, ih hs h.of_concat hinner hsome]
      constructor
      · exact fun hall below hb hsb => List.mem_append_left _ (hall below hb hsb)
      · intro hall below hb hsb
        rcases List.mem_append.mp (hall below hb hsb) with hin | hin
        · exact hin
        -- in `x` lies something, which is listed and so `x` is listed before it
        · obtain rfl := List.mem_singleton.mp hin
          obtain ⟨name, hname⟩ := exists_below_of_not_loose hs hloose hx hsb
          have hlisted := hall (name :: below) (hb.trans (List.suffix_cons name below)) hname
          have hmem : name :: below ∈ inner := by simpa using hlisted
          exact h.mem_of_above hmem (List.suffix_cons name below)
    | true =>
      by_cases hne : loc = x
      · subst hne
        have hgone : (s.loosen loc).at? loc = none := at?_loosen_self hloose
        refine iff_of_true ((sweep_keeps _ _).at?_eq_none hgone) fun below hb hsb => ?_
        rw [eq_of_loose hs hloose hb hsb]
        simp
      · have hview : ∀ l, ((s.loosen x).at? l).isSome ↔ (s.at? l).isSome ∧ l ≠ x := by
          intro l
          by_cases hl : l = x
          · subst hl
            simp [at?_loosen_self hloose]
          · simp [at?_loosen_of_ne hl, hl]
        rw [ih (loosen_isPlain hs x) h.of_concat hinner ((hview loc).mpr ⟨hsome, hne⟩)]
        constructor
        · intro hall below hb hsb
          by_cases hbx : below = x
          · simp [hbx]
          · exact List.mem_append_left _ (hall below hb ((hview below).mpr ⟨hsb, hbx⟩))
        · intro hall below hb hsb
          obtain ⟨hsb, hbx⟩ := (hview below).mp hsb
          simpa [hbx] using hall below hb hsb

theorem at?_of_at?_sweep {e : Entry} (h : (s.sweep locs).at? loc = some e) :
    s.at? loc = some e := by
  induction locs generalizing s with
  | nil => exact h
  | cons x rest ih =>
    have hx : (s.loosen x).at? loc = some e := ih h
    by_cases hl : loc = x
    · subst hl
      cases hloose : s.isLoose loc with
      | true =>
        rw [at?_loosen_self hloose] at hx
        cases hx
      | false => rwa [loosen_of_not_loose hloose] at hx
    · rwa [at?_loosen_of_ne hl] at hx

/-- In a plain store it does not matter what a path is walked for. -/
theorem probe_aim (hs : s.IsPlain) (hp : p.IsPlain) (aim : Aim) :
    s.probe aim p = s.probe .target p := by
  unfold probe
  rw [place_eq_descend hs hp, place_eq_descend hs hp]

theorem probe_error (hs : s.IsPlain) (hp : p.IsPlain) {why : Refusal}
    (h : s.probe aim p = .error why) : why = .nameTooLong ∧ ¬ p.IsShort := by
  unfold probe at h
  split at h
  · cases h
  split at h
  · cases h
  · cases h
  · next hpl =>
    split at h
    · cases h
    next hno =>
    cases h
    rw [place_eq_descend hs hp] at hpl
    split at hpl
    · next hlong =>
      cases hpl
      exact ⟨rfl, fun hshort => by have := hshort.1; omega⟩
    · rcases descend_refused hs hpl with ⟨rfl, name, hn, hlong⟩ | ⟨habsent, -⟩
      · exact ⟨rfl, fun hshort => by have := hshort.2 name hn; omega⟩
      · exact absurd habsent hno

theorem descend_nameTooLong (h : Keeps t s) (ht : t.descend here names = .refused .nameTooLong) :
    s.descend here names = .refused .nameTooLong := by
  induction names generalizing here with
  | nil => cases ht
  | cons name rest ih =>
    unfold descend at ht ⊢
    split at ht
    · cases ht
    next hd =>
    rw [if_neg (by simp [h.isDirectoryAt (by simpa using hd)])]
    split at ht
    · next hlong => rw [if_pos hlong]
    next hlong =>
    rw [if_neg hlong]
    split at ht
    · split at ht <;> cases ht
    next e he =>
    have hsome : (t.at? (name :: here)).isSome := by rw [he]; rfl
    obtain ⟨e', he'⟩ := Option.isSome_iff_exists.mp (h.isSome hsome)
    rw [he']
    exact ih ht

theorem probe_ok_of_keeps (h : Keeps t s) (hs : s.IsPlain) (ht : t.IsPlain) (hp : p.IsPlain)
    {found : Option (Loc × Entry)} (hok : s.probe aim p = .ok found) :
    ∃ found, t.probe aim p = .ok found := by
  cases hpr : t.probe aim p with
  | ok found => exact ⟨found, rfl⟩
  | error why =>
    exfalso
    unfold probe at hok hpr
    rw [place_eq_descend hs hp] at hok
    rw [place_eq_descend ht hp] at hpr
    split at hpr
    · cases hpr
    next hnul =>
    rw [if_neg hnul] at hok
    by_cases hlong : pathLimit < p.text.utf8ByteSize
    · simp [hlong, Refusal.meansAbsent] at hok
    rw [if_neg hlong] at hok hpr
    cases hd : t.descend [] p.names with
    | entry loc => simp [hd] at hpr
    | vacant dir name => simp [hd] at hpr
    | refused reason =>
      rcases descend_refused ht hd with ⟨rfl, -⟩ | ⟨habsent, -⟩
      · simp [descend_nameTooLong h hd, Refusal.meansAbsent] at hok
      · simp [hd, habsent] at hpr

/-- A removal is refused if the path is too long, or names the root of a disk with nothing on it,
and else it empties the place that the path names. -/
theorem removePath_of_plain (hs : s.IsPlain) (hp : p.IsPlain) :
    (¬ p.IsShort ∧ s.probe .target p = .error .nameTooLong ∧
        s.removePath p = .error (.refused .nameTooLong p.text)) ∨
      (p.names = [] ∧ ∃ why, s.removePath p = .error (.refused why p.text)) ∨
      ((∃ found, s.probe .target p = .ok found) ∧
        s.removePath p = .ok (p.place?.any s.isLoose, p.place?.elim s s.loosen)) := by
  cases hpr : s.probe .target p with
  | error why =>
    obtain ⟨rfl, hlong⟩ := probe_error hs hp hpr
    refine .inl ⟨hlong, rfl, removePath_of_target_error ?_⟩
    rw [look, hpr]; rfl
  | ok found =>
    have hl : s.look .itself p = .ok found := by rw [look, probe_aim hs hp, hpr]; rfl
    have hd : s.isDirectory? p = .ok (found.any fun e => e.2.isDirectory) := by
      rw [isDirectory?, look, hpr]; rfl
    have hfound := probe_ok hs hp hpr
    unfold Path.place?
    split at hfound
    · next hnul =>
      subst hfound
      rw [removePath_of_none hl, if_pos hnul]
      exact .inr (.inr ⟨⟨_, rfl⟩, rfl⟩)
    · next hnul =>
      rw [if_neg hnul]
      cases he : s.at? p.loc with
      | none =>
        rw [he] at hfound
        subst hfound
        rw [removePath_of_none hl]
        exact .inr (.inr ⟨⟨_, rfl⟩, by simp [loosen, isLoose, he]⟩)
      | some e =>
        rw [he] at hfound
        subst hfound
        rw [removePath_of_look hd hl]
        split
        · next hroot => exact .inr (.inl ⟨List.reverse_eq_nil_iff.mp hroot.1, _, rfl⟩)
        · exact .inr (.inr ⟨⟨_, rfl⟩, rfl⟩)

/-! ## Removals in a row -/

theorem listed_reverse : listed keys.reverse = (listed keys).reverse := List.filterMap_reverse

theorem mem_listed : loc ∈ listed keys ↔ ∃ key ∈ keys, (Path.ofString key).place? = some loc :=
  List.mem_filterMap

theorem place?_eq_some_iff : p.place? = some loc ↔ p.hasNul = false ∧ p.loc = loc := by
  unfold Path.place?
  cases p.hasNul <;> simp

theorem removeAll_cons {b : Bool} (hr : s.removePath (Path.ofString key) = .ok (b, u))
    (h : Run.removeAll s (key :: keys) = (.ok removed, t)) : ∃ others,
      Run.removeAll u keys = (.ok others, t) ∧ removed = if b then key :: others else others := by
  simp only [Run.removeAll, hr] at h
  cases hrest : Run.removeAll u keys with
  | mk result v =>
    rw [hrest] at h
    cases result with
    | error g => cases h
    | ok others =>
      cases h
      exact ⟨others, rfl, rfl⟩

theorem removeAll_eq_sweep (hs : s.IsPlain) (hp : ∀ key ∈ keys, (Path.ofString key).IsPlain)
    (h : Run.removeAll s keys = (.ok removed, t)) : t = s.sweep (listed keys) ∧
      ∀ key ∈ keys, ∃ found, t.probe .target (Path.ofString key) = .ok found := by
  induction keys generalizing s removed with
  | nil =>
    cases h
    exact ⟨rfl, nofun⟩
  | cons key rest ih =>
    obtain ⟨hpk, hrest⟩ := List.forall_mem_cons.mp hp
    rcases removePath_of_plain hs hpk with ⟨-, -, hr⟩ | ⟨-, why, hr⟩ | ⟨⟨found, hfound⟩, hr⟩
    · rw [Run.removeAll, hr] at h
      cases h
    · rw [Run.removeAll, hr] at h
      cases h
    obtain ⟨others, ho, -⟩ := removeAll_cons hr h
    have hsweep : s.sweep (listed (key :: rest)) =
        ((Path.ofString key).place?.elim s s.loosen).sweep (listed rest) := by
      unfold listed
      rw [List.filterMap_cons]
      cases (Path.ofString key).place? <;> rfl
    have hplain : ((Path.ofString key).place?.elim s s.loosen).IsPlain := by
      cases (Path.ofString key).place? with
      | none => exact hs
      | some loc => exact loosen_isPlain hs loc
    obtain ⟨ht, hasked⟩ := ih hplain hrest ho
    rw [hsweep]
    refine ⟨ht, List.forall_mem_cons.mpr ⟨?_, hasked⟩⟩
    have hkeeps : Keeps t s := by
      rw [ht, ← hsweep]
      exact sweep_keeps s _
    have htplain : t.IsPlain := by
      rw [ht]
      exact sweep_isPlain hplain _
    exact probe_ok_of_keeps hkeeps hs htplain hpk hfound

/-- The answer of removals names what they take away, each place once and in their order. -/
theorem removeAll_removed (hs : s.IsPlain) (hp : ∀ key ∈ keys, (Path.ofString key).IsPlain)
    (h : Run.removeAll s keys = (.ok removed, t)) : removed.Sublist keys ∧
      (removed.map fun key => (Path.ofString key).loc).Nodup ∧
      ∀ loc, loc ∈ removed.map (fun key => (Path.ofString key).loc) ↔
        (s.at? loc).isSome ∧ t.at? loc = none := by
  induction keys generalizing s removed with
  | nil =>
    cases h
    refine ⟨.slnil, List.nodup_nil, fun loc => iff_of_false List.not_mem_nil ?_⟩
    rintro ⟨hsome, hnone⟩
    rw [hnone] at hsome
    cases hsome
  | cons key rest ih =>
    obtain ⟨hpk, hrest⟩ := List.forall_mem_cons.mp hp
    rcases removePath_of_plain hs hpk with ⟨-, -, hr⟩ | ⟨-, why, hr⟩ | ⟨-, hr⟩
    · rw [Run.removeAll, hr] at h
      cases h
    · rw [Run.removeAll, hr] at h
      cases h
    obtain ⟨others, ho, rfl⟩ := removeAll_cons hr h
    cases hplace : (Path.ofString key).place? with
    | none =>
      rw [hplace] at ho
      obtain ⟨hsub, hnodup, hexact⟩ := ih hs hrest ho
      exact ⟨hsub.cons key, hnodup, hexact⟩
    | some loc =>
      obtain ⟨-, hloc⟩ := place?_eq_some_iff.mp hplace
      rw [hplace] at ho
      obtain ⟨hsub, hnodup, hexact⟩ := ih (loosen_isPlain hs loc) hrest ho
      rw [Option.any_some]
      cases hloose : s.isLoose loc with
      | false =>
        rw [loosen_of_not_loose hloose] at hexact
        exact ⟨hsub.cons key, hnodup, hexact⟩
      | true =>
        have hgone : (s.loosen loc).at? loc = none := at?_loosen_self hloose
        rw [if_pos rfl, List.map_cons, hloc]
        refine ⟨hsub.cons_cons key, List.nodup_cons.mpr ⟨fun hin => ?_, hnodup⟩, fun l => ?_⟩
        · have hthere := ((hexact loc).mp hin).1
          rw [hgone] at hthere
          cases hthere
        · rw [List.mem_cons, hexact l]
          by_cases hl : l = loc
          · subst hl
            have hnone : t.at? l = none := by
              rw [(removeAll_eq_sweep (loosen_isPlain hs l) hrest ho).1]
              exact (sweep_keeps _ _).at?_eq_none hgone
            exact iff_of_true (.inl rfl) ⟨isLoose_isSome hloose, hnone⟩
          · rw [at?_loosen_of_ne hl, or_iff_right hl]

theorem removeAll_error (h : Run.removeAll s keys = (.error f, t)) : ∃ done key rest removed,
    keys = done ++ key :: rest ∧ Run.removeAll s done = (.ok removed, t) ∧
      t.removePath (Path.ofString key) = .error f := by
  induction keys generalizing s with
  | nil => cases h
  | cons key keys ih =>
    cases hr : s.removePath (Path.ofString key) with
    | error g =>
      rw [Run.removeAll, hr] at h
      cases h
      exact ⟨[], key, keys, [], rfl, rfl, hr⟩
    | ok answer =>
      obtain ⟨b, u⟩ := answer
      simp only [Run.removeAll, hr] at h
      cases hrest : Run.removeAll u keys with
      | mk result v =>
        rw [hrest] at h
        cases result with
        | ok others => cases h
        | error g =>
          cases h
          obtain ⟨done, k, rest, removed, rfl, hdone, hk⟩ := ih hrest
          refine ⟨key :: done, k, rest, if b then key :: removed else removed, rfl, ?_, hk⟩
          simp only [Run.removeAll, hr, hdone]
          rfl

theorem removeAll_nothing (h : ∀ key ∈ keys, s.removePath (Path.ofString key) = .ok (false, s)) :
    Run.removeAll s keys = (.ok [], s) := by
  induction keys with
  | nil => rfl
  | cons key rest ih =>
    obtain ⟨hk, hrest⟩ := List.forall_mem_cons.mp h
    simp only [Run.removeAll, hk, ih hrest]
    rfl

/-! ## Undoing -/

section Undone

variable (hs : s.IsPlain) (hp : ∀ key ∈ keys, (Path.ofString key).IsPlain)
  (h : Run.undo s keys = (.ok removed, t))

include hs hp h

theorem undo_eq_sweep : t = s.sweep (listed keys).reverse ∧
    ∀ key ∈ keys, ∃ found, t.probe .target (Path.ofString key) = .ok found := by
  have hp' : ∀ key ∈ keys.reverse, (Path.ofString key).IsPlain :=
    fun key hk => hp key (List.mem_reverse.mp hk)
  obtain ⟨ht, hasked⟩ := removeAll_eq_sweep hs hp' h
  rw [listed_reverse] at ht
  exact ⟨ht, fun key hk => hasked key (List.mem_reverse.mpr hk)⟩

theorem undo_hasRemoved : HasRemoved s keys removed t := by
  have hp' : ∀ key ∈ keys.reverse, (Path.ofString key).IsPlain :=
    fun key hk => hp key (List.mem_reverse.mp hk)
  obtain ⟨hsub, hnodup, hexact⟩ := removeAll_removed hs hp' h
  have ht := (undo_eq_sweep hs hp h).1
  refine ⟨fun loc e he => ?_, fun loc hno => ?_, hsub, hnodup, hexact⟩
  · rw [ht] at he
    exact at?_of_at?_sweep he
  · rw [ht, at?_sweep_of_not_mem (by simpa using hno)]

theorem undo_stays (hroot : ∀ key ∈ keys, (Path.ofString key).names ≠ [])
    (hord : AncestorsFirst (listed keys)) (hin : loc ∈ listed keys) :
    (t.at? loc).isSome ↔ s.at? loc = some .directory ∧
      ∃ below, loc <:+ below ∧ loc ≠ below ∧ (s.at? below).isSome ∧ below ∉ listed keys := by
  have hnoroot : [] ∉ listed keys := by
    intro hnil
    obtain ⟨key, hk, hplace⟩ := mem_listed.mp hnil
    have hloc : (Path.ofString key).loc = [] := (place?_eq_some_iff.mp hplace).2
    exact hroot key hk (List.reverse_eq_nil_iff.mp hloc)
  obtain ⟨rfl, -⟩ := undo_eq_sweep hs hp h
  rw [Option.isSome_iff_ne_none]
  cases hat : s.at? loc with
  | none =>
    have hnone := (sweep_keeps s (listed keys).reverse).at?_eq_none hat
    exact iff_of_false (fun hne => hne hnone) (by simp)
  | some e =>
    have hsome : (s.at? loc).isSome := by rw [hat]; rfl
    rw [Ne, at?_sweep_reverse_eq_none_iff hs hord hnoroot hsome, ← hat]
    constructor
    · intro hno
      push Not at hno
      obtain ⟨below, hb, hsb, hunlisted⟩ := hno
      have hne : loc ≠ below := by
        rintro rfl
        exact hunlisted hin
      exact ⟨hs.above hsb hb hne, below, hb, hne, hsb, hunlisted⟩
    · rintro ⟨-, below, hb, -, hsb, hunlisted⟩ hall
      exact hunlisted (hall below hb hsb)

/-- What cannot go in its turn cannot go later. -/
theorem undo_isRolledBack (hroot : ∀ key ∈ keys, (Path.ofString key).names ≠ [])
    (hord : AncestorsFirst (listed keys)) : IsRolledBack s keys removed t := by
  have hstays := fun loc => @undo_stays s t loc keys removed hs hp h hroot hord
  have hremoved := undo_hasRemoved hs hp h
  obtain ⟨ht, hasked⟩ := undo_eq_sweep hs hp h
  have htplain : t.IsPlain := by
    rw [ht]
    exact sweep_isPlain hs _
  refine ⟨hremoved, hstays, ?_⟩
  refine removeAll_nothing fun key hk => ?_
  rw [List.mem_reverse] at hk
  obtain ⟨found, hfound⟩ := hasked key hk
  rcases removePath_of_plain htplain (hp key hk) with ⟨-, hno, -⟩ | ⟨hno, -⟩ | ⟨-, hr⟩
  · rw [hfound] at hno
    cases hno
  · exact absurd hno (hroot key hk)
  rw [hr]
  cases hplace : (Path.ofString key).place? with
  | none => rfl
  | some loc =>
    have hfast : t.isLoose loc = false := by
      rw [← Bool.not_eq_true]
      intro hloose
      obtain ⟨-, below, hb, hne, hsb, hunlisted⟩ :=
        (hstays loc (mem_listed.mpr ⟨key, hk, hplace⟩)).mp (isLoose_isSome hloose)
      rw [← hremoved.unlisted below hunlisted] at hsb
      exact hne (eq_of_loose htplain hloose hb hsb).symm
    simp only [Option.any_some, Option.elim_some, hfast, loosen_of_not_loose hfast]

end Undone

/-- **Undoing a list of paths.** In a store without links, let a list hold absolute paths without
`..` and not the root, each after the listed paths above it. Undoing it removes all that can be
removed and nothing else, unless it comes to a path that is too long to ask about: then it ends
there with the refusal of the system, the newer paths are removed as far as they could be, and the
path and all older ones are left alone. -/
theorem undo_listed (hs : s.IsPlain) (habs : ∀ key ∈ keys, (Path.ofString key).anchor ≠ .relative ∧
      ".." ∉ (Path.ofString key).names ∧ (Path.ofString key).names ≠ [])
    (hord : AncestorsFirst (listed keys)) :
    (∃ removed t, Run.undo s keys = (.ok removed, t) ∧ IsRolledBack s keys removed t) ∨
      ∃ older key newer removed t, keys = older ++ key :: newer ∧
        ¬ (Path.ofString key).IsShort ∧ HasRemoved s newer removed t ∧
        Run.undo s newer = (.ok removed, t) ∧
        Run.undo s keys = (.error (.refused .nameTooLong (Path.ofString key).text), t) := by
  have hp : ∀ key ∈ keys, (Path.ofString key).IsPlain :=
    fun key hk => Path.ofString_isPlain (habs key hk).1 (habs key hk).2.1
  cases h : Run.undo s keys with
  | mk result t =>
    cases result with
    | ok removed =>
      exact .inl ⟨removed, t, rfl, undo_isRolledBack hs hp h (fun key hk => (habs key hk).2.2) hord⟩
    | error f =>
      refine .inr ?_
      obtain ⟨done, key, rest, removed, hkeys, hdone, hr⟩ := removeAll_error h
      have hsplit : keys = rest.reverse ++ key :: done.reverse := by
        rw [← List.reverse_reverse keys, hkeys]
        simp
      have hnewer : Run.undo s done.reverse = (.ok removed, t) := by
        rw [Run.undo, List.reverse_reverse, hdone]
      have hpn : ∀ k ∈ done.reverse, (Path.ofString k).IsPlain :=
        fun k hk => hp k (by rw [hsplit]; simp [List.mem_reverse.mp hk])
      have hplain : t.IsPlain := by
        rw [(undo_eq_sweep hs hpn hnewer).1]
        exact sweep_isPlain hs _
      have hkey : key ∈ keys := by rw [hsplit]; simp
      rcases removePath_of_plain hplain (hp key hkey) with
        ⟨hlong, -, hrefused⟩ | ⟨hno, -⟩ | ⟨-, hok⟩
      · rw [hr] at hrefused
        cases hrefused
        exact ⟨rest.reverse, key, done.reverse, removed, t, hsplit, hlong,
          undo_hasRemoved hs hpn hnewer, hnewer, rfl⟩
      · exact absurd hno (habs key hkey).2.2
      · rw [hr] at hok
        cases hok

def mixedStore : Store := ⟨[(["p"], .directory), (["own", "p"], .directory),
  (["a.txt", "own", "p"], .file .empty), (["mixed", "p"], .directory),
  (["b.txt", "mixed", "p"], .file .empty), (["keep.txt", "mixed", "p"], .file .empty)]⟩

theorem mixedStore_isPlain : mixedStore.IsPlain := isPlain_of_entries (by decide)

def mixedList : List String :=
  ["/p/own", "/p/mixed", "/p/own/a.txt", "/p//mixed/b.txt", "/p/own/a.txt", "/p/gone"]

/-- A name that no file can have. -/
structure IsLongName (name : String) : Prop where
  inside : '/' ∉ name.toList
  noNul : '\x00' ∉ name.toList
  long : nameLimit < name.utf8ByteSize

def outermost (name : String) : Path := ⟨.root, [name]⟩

def interrupted (name : String) : List String :=
  ["/p/mixed/b.txt", (outermost name).text, "/p/own/a.txt"]

section

variable {name : String} (h : IsLongName name)

include h

theorem IsLongName.ne_dots : name ≠ "" ∧ name ≠ "." ∧ name ≠ ".." := by
  have hlong := h.long
  refine ⟨?_, ?_, ?_⟩ <;>
  · rintro rfl
    exact absurd hlong (by decide)

theorem IsLongName.ofString_text : Path.ofString (outermost name).text = outermost name := by
  refine Path.ofString_text fun n hn => ?_
  rw [List.mem_singleton.mp hn]
  exact ⟨h.ne_dots.1, h.ne_dots.2.1, h.inside⟩

theorem IsLongName.removePath (s : Store) : s.removePath (outermost name) =
    .error (.refused .nameTooLong (outermost name).text) := by
  obtain ⟨h1, h2, h3⟩ := h.ne_dots
  have hadvance : s.advance .target [] [name] = .ended (.refused .nameTooLong) := by
    rw [advance, if_neg (by simp [isDirectoryAt_iff.mpr at?_root]), if_neg (by simp [h1, h2]),
      if_neg h3, if_neg (by simp), if_pos h.long]
  have hplace : s.place .target (outermost name) = .refused .nameTooLong := by
    unfold place
    split
    · rfl
    · change s.walk .target [] [name] linkLimit = _
      rw [linkLimit, walk, hadvance]
  have hnul : (outermost name).hasNul = false := by
    rw [outermost, Path.hasNul, List.any_cons, List.any_nil, Bool.or_false, ← Bool.not_eq_true,
      List.contains_iff_mem]
    exact h.noNul
  have hlook : s.look .target (outermost name) =
      .error (.refused .nameTooLong (outermost name).text) := by
    rw [look, probe, hnul, if_neg (by simp), hplace]
    rfl
  exact removePath_of_target_error hlook

/-- The newest path is removed, and then nothing more. -/
theorem IsLongName.undo_interrupted : Run.undo mixedStore (interrupted name) =
    (.error (.refused .nameTooLong (outermost name).text),
      mixedStore.loosen ["a.txt", "own", "p"]) := by
  have hplain : (Path.ofString "/p/own/a.txt").IsPlain :=
    Path.ofString_isPlain (by decide) (by decide)
  have hfits : (Path.ofString "/p/own/a.txt").Fits :=
    ⟨by decide, by decide, by decide⟩
  have hloc : (Path.ofString "/p/own/a.txt").loc = ["a.txt", "own", "p"] := by decide
  have hnewest := removePath_of_fits mixedStore_isPlain hplain hfits (by decide)
  rw [hloc] at hnewest
  have hreverse : (interrupted name).reverse =
      ["/p/own/a.txt", (outermost name).text, "/p/mixed/b.txt"] := rfl
  simp only [Run.undo, hreverse, Run.removeAll, hnewest, h.ofString_text, h.removePath]
  rfl

end

def nameOfSize (n : Nat) : String := String.ofList (List.replicate n 'n')

theorem nameOfSize_isLongName : IsLongName (nameOfSize 256) := by
  have hchars : ∀ (n : Nat), ∀ c ∈ (nameOfSize n).toList, c = 'n' := by
    intro n c hc
    rw [nameOfSize, String.toList_ofList] at hc
    exact List.eq_of_mem_replicate hc
  refine ⟨fun hin => ?_, fun hin => ?_, by decide +kernel⟩
  · cases hchars 256 _ hin
  · cases hchars 256 _ hin

theorem undo_listed_of_mixed :
    (∀ key ∈ mixedList, (Path.ofString key).anchor ≠ .relative ∧
        ".." ∉ (Path.ofString key).names ∧ (Path.ofString key).names ≠ []) ∧
      AncestorsFirst (listed mixedList) ∧ mixedStore.IsPlain ∧
      (∃ t, Run.undo mixedStore mixedList =
          (.ok ["/p/own/a.txt", "/p//mixed/b.txt", "/p/own"], t) ∧
        IsRolledBack mixedStore mixedList ["/p/own/a.txt", "/p//mixed/b.txt", "/p/own"] t) ∧
      ∃ t, Run.undo mixedStore (interrupted (nameOfSize 256)) =
          (.error (.refused .nameTooLong (outermost (nameOfSize 256)).text), t) ∧
        (t.at? ["b.txt", "mixed", "p"]).isSome := by
  have habs : ∀ key ∈ mixedList, (Path.ofString key).anchor ≠ .relative ∧
      ".." ∉ (Path.ofString key).names ∧ (Path.ofString key).names ≠ [] := by decide
  have hord : AncestorsFirst (listed mixedList) := by decide
  have hmixed : (Run.undo mixedStore mixedList).1 =
      .ok ["/p/own/a.txt", "/p//mixed/b.txt", "/p/own"] := by decide
  refine ⟨habs, hord, mixedStore_isPlain, ?_, _, nameOfSize_isLongName.undo_interrupted,
    by decide⟩
  rcases undo_listed mixedStore_isPlain habs hord with ⟨removed, t, hundo, hback⟩ |
    ⟨older, key, newer, removed, t, -, -, -, -, hundo⟩
  · rw [hundo] at hmixed
    cases hmixed
    exact ⟨t, hundo, hback⟩
  · rw [hundo] at hmixed
    cases hmixed

end Scaffold
