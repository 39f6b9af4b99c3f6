import Scaffold.Proofs.Store.Removal

/-!
# Sweeps

A `sweep` over places of a plain store empties them in order, as far as they can be emptied. What a
sweep takes away can be read off the store
before it: an entry that is swept itself, and below which every entry is swept before the directory
it lies in (`at?_sweep_eq_none_iff`).
-/

namespace Scaffold.Store

open Scaffold.Path (pathTo)

def Precedes (l : List Loc) (x y : Loc) : Prop := [x, y].Sublist l

instance (l : List Loc) (x y : Loc) : Decidable (Precedes l x y) := by
  unfold Precedes; infer_instance

variable {s : Store} {locs : List Loc} {loc dir x y : Loc} {name : String}

/-- Empties places in the given order as far as they can be emptied. -/
def sweep (s : Store) (locs : List Loc) : Store := locs.foldl loosen s

theorem sweep_isPlain (hs : s.IsPlain) (locs : List Loc) : (s.sweep locs).IsPlain := by
  induction locs generalizing s with
  | nil => exact hs
  | cons loc locs ih => exact ih (loosen_isPlain hs loc)

theorem at?_sweep_of_not_mem {locs : List Loc} {other : Loc} (h : other ∉ locs) :
    (s.sweep locs).at? other = s.at? other := by
  induction locs generalizing s with
  | nil => rfl
  | cons loc locs ih =>
    rw [List.mem_cons, not_or] at h
    exact (ih h.2).trans (at?_loosen_of_ne h.1)

theorem at?_of_bare (hs : s.IsPlain) (hbare : s.isBare [] = true) (hne : loc ≠ []) :
    s.at? loc = none := by
  obtain ⟨first, m, rfl⟩ : ∃ first m, loc = first ++ [m] :=
    ⟨loc.dropLast, loc.getLast hne, (List.dropLast_concat_getLast hne).symm⟩
  have hm : s.at? [m] = none := isBare_iff.mp hbare m
  by_cases hf : first = []
  · subst hf; exact hm
  · exact hs.none_below (by simp [hm]) ⟨first, rfl⟩ (by simpa using hf)

theorem sweep_of_bare (hs : s.IsPlain) (hbare : s.isBare [] = true) (locs : List Loc) :
    s.sweep locs = s := by
  have hstay : ∀ loc, s.loosen loc = s := fun loc => by
    refine loosen_of_not_loose (Bool.eq_false_iff.mpr fun hloose => ?_)
    have hsome := isLoose_isSome hloose
    rw [at?_of_bare hs hbare (isLoose_ne_nil hloose)] at hsome
    cases hsome
  induction locs with
  | nil => rfl
  | cons loc locs ih =>
    show (s.loosen loc).sweep locs = s
    rw [hstay, ih]

theorem loosen_keeps (s : Store) (loc : Loc) : Keeps (s.loosen loc) s := by
  unfold loosen
  split
  · next h => exact erase_keeps (isLoose_ne_nil h)
  · exact .refl s

theorem sweep_keeps (s : Store) (locs : List Loc) : Keeps (s.sweep locs) s := by
  induction locs generalizing s with
  | nil => exact .refl s
  | cons loc locs ih => exact (ih (s.loosen loc)).trans (loosen_keeps s loc)

theorem precedes_cons (h : x ≠ loc) : Precedes (loc :: locs) x y ↔ Precedes locs x y := by
  unfold Precedes
  refine ⟨fun hp => ?_, fun hp => hp.cons loc⟩
  cases hp with
  | cons _ hp => exact hp
  | cons_cons _ _ => exact absurd rfl h

theorem precedes_cons_self : Precedes (x :: locs) x y ↔ y ∈ locs := by
  unfold Precedes
  refine ⟨fun hp => ?_, fun hy => (List.singleton_sublist.mpr hy).cons_cons x⟩
  cases hp with
  | cons _ hp => exact hp.subset (by simp)
  | cons_cons _ hp => exact List.singleton_sublist.mp hp

/-- Swept, and so is all that lies below, each entry before the directory it lies in. -/
structure IsSweptOut (s : Store) (locs : List Loc) (loc : Loc) : Prop where
  ne_root : loc ≠ []
  mem : loc ∈ locs
  below : ∀ name dir, loc <:+ dir → (s.at? (name :: dir)).isSome →
    Precedes locs (name :: dir) dir

theorem none_below_of_loose (hs : s.IsPlain) (h : s.isLoose x = true) (hd : x <:+ dir) :
    s.at? (name :: dir) = none := by
  have hbare := ((isLoose_iff hs).mp h).2.2
  by_cases he : x = dir
  · rw [← he]; exact hbare name
  · -- the directory lies below `x` itself, and so does the first entry on the way to it
    have hnone : s.at? dir = none := by
      obtain ⟨names, rfl⟩ := hd
      obtain ⟨first, m, rfl⟩ : ∃ first m, names = first ++ [m] :=
        ⟨names.dropLast, names.getLast (by simpa using he), (List.dropLast_concat_getLast _).symm⟩
      have hm : s.at? (m :: x) ≠ some .directory := by simp [hbare m]
      by_cases hf : first = []
      · subst hf; exact hbare m
      · exact hs.none_below hm ⟨first, by simp⟩ (by simpa using hf)
    exact hs.none_below (by simp [hnone]) (List.suffix_cons name dir) (by simp)

theorem eq_of_loose (hs : s.IsPlain) (h : s.isLoose x = true) (hd : x <:+ loc)
    (hsome : (s.at? loc).isSome) : loc = x := by
  cases loc with
  | nil => exact (List.suffix_nil.mp hd).symm
  | cons name dir =>
    rcases List.suffix_cons_iff.mp hd with he | hbelow
    · exact he.symm
    · rw [none_below_of_loose hs h hbelow] at hsome
      cases hsome

/-- In what is there and cannot be emptied lies something. -/
theorem exists_below_of_not_loose (hs : s.IsPlain) (h : s.isLoose loc = false) (hne : loc ≠ [])
    (hsome : (s.at? loc).isSome) : ∃ name, (s.at? (name :: loc)).isSome := by
  refine Classical.byContradiction fun hno => ?_
  have hbare : ∀ name, s.at? (name :: loc) = none := by
    intro name
    cases hc : s.at? (name :: loc) with
    | none => rfl
    | some e => exact absurd ⟨name, by simp [hc]⟩ hno
  rw [(isLoose_iff hs).mpr ⟨hne, hsome, hbare⟩] at h; cases h

theorem isSweptOut_file (hs : s.IsPlain) {content : ByteArray}
    (hf : s.at? loc = some (.file content)) : s.IsSweptOut locs loc ↔ loc ∈ locs := by
  have hloose : s.isLoose loc = true := by simp [isLoose, hf]
  refine ⟨fun h => h.mem, fun hin => ⟨isLoose_ne_nil hloose, hin, fun name dir hd hsome => ?_⟩⟩
  rw [none_below_of_loose hs hloose hd] at hsome; cases hsome

theorem isSweptOut_of_loose (hs : s.IsPlain) (h : s.isLoose loc = true) :
    s.IsSweptOut (loc :: locs) loc where
  ne_root := isLoose_ne_nil h
  mem := List.mem_cons_self
  below name dir hd hsome := by
    rw [none_below_of_loose hs h hd] at hsome; cases hsome

/-- What has been emptied is no longer in the way. -/
theorem isSweptOut_cons_of_loose (hs : s.IsPlain) (h : s.isLoose x = true) (hne : loc ≠ x) :
    s.IsSweptOut (x :: locs) loc ↔ (s.loosen x).IsSweptOut locs loc := by
  have hview : ∀ l, l ≠ x → (s.loosen x).at? l = s.at? l := fun l hl => at?_loosen_of_ne hl
  constructor
  · rintro ⟨hroot, hmem, hbelow⟩
    refine ⟨hroot, (List.mem_cons.mp hmem).resolve_left hne, fun name dir hd hsome => ?_⟩
    have hnx : name :: dir ≠ x := by
      rintro rfl
      rw [at?_loosen_self h] at hsome; cases hsome
    rw [hview _ hnx] at hsome
    exact (precedes_cons hnx).mp (hbelow name dir hd hsome)
  · rintro ⟨hroot, hmem, hbelow⟩
    refine ⟨hroot, List.mem_cons_of_mem x hmem, fun name dir hd hsome => ?_⟩
    by_cases hnx : name :: dir = x
    · subst hnx
      rw [precedes_cons_self]
      -- the directory is the swept one, or lies below it and is swept before the one it lies in
      by_cases hdl : loc = dir
      · exact hdl ▸ hmem
      cases dir with
      | nil => exact absurd (List.suffix_nil.mp hd) hdl
      | cons m outer =>
        have hd' := (List.suffix_cons_iff.mp hd).resolve_left hdl
        have hdir : ((s.loosen (name :: m :: outer)).at? (m :: outer)).isSome := by
          rw [hview _ (by simp), hs.closed name (m :: outer) hsome]; rfl
        exact (hbelow m outer hd' hdir).subset (by simp)
    · rw [precedes_cons hnx]
      exact hbelow name dir hd (by rwa [hview _ hnx])

/-- What cannot be emptied when its turn comes stays, and so does all above it. -/
theorem isSweptOut_cons_of_not_loose (hs : s.IsPlain) (h : s.isLoose x = false) (hx : x ∉ locs)
    (hsome : (s.at? loc).isSome) : s.IsSweptOut (x :: locs) loc ↔ s.IsSweptOut locs loc := by
  constructor
  · rintro ⟨hroot, hmem, hbelow⟩
    have hstuck : ∀ l, loc <:+ l → l ≠ [] → (s.at? l).isSome → l ≠ x := by
      rintro l hl hne hl' rfl
      obtain ⟨name, hname⟩ := exists_below_of_not_loose hs h hne hl'
      have hp := (precedes_cons (by simp)).mp (hbelow name l hl hname)
      exact hx (hp.subset (by simp))
    have hne : loc ≠ x := hstuck loc List.suffix_rfl hroot hsome
    refine ⟨hroot, (List.mem_cons.mp hmem).resolve_left hne, fun name dir hd hn => ?_⟩
    have hnx := hstuck (name :: dir) (hd.trans (List.suffix_cons name dir)) (by simp) hn
    exact (precedes_cons hnx).mp (hbelow name dir hd hn)
  · rintro ⟨hroot, hmem, hbelow⟩
    exact ⟨hroot, List.mem_cons_of_mem x hmem, fun name dir hd hn => (hbelow name dir hd hn).cons x⟩

/-- A sweep takes an entry away exactly if all of it is swept out. -/
theorem at?_sweep_eq_none_iff (hs : s.IsPlain) (hnodup : locs.Nodup)
    (hsome : (s.at? loc).isSome) : (s.sweep locs).at? loc = none ↔ s.IsSweptOut locs loc := by
  induction locs generalizing s with
  | nil =>
    refine iff_of_false (fun h => ?_) fun h => List.not_mem_nil h.mem
    rw [show s.sweep [] = s from rfl] at h
    rw [h] at hsome; cases hsome
  | cons x locs ih =>
    obtain ⟨hx, hnodup⟩ := List.nodup_cons.mp hnodup
    show ((s.loosen x).sweep locs).at? loc = none ↔ _
    cases h : s.isLoose x with
    | false =>
      rw [isSweptOut_cons_of_not_loose hs h hx hsome, ← ih hs hnodup hsome, loosen,
        if_neg (by simp [h])]
    | true =>
      by_cases hne : loc = x
      · subst hne
        refine iff_of_true ?_ (isSweptOut_of_loose hs h)
        exact (sweep_keeps (s.loosen loc) locs).at?_eq_none (at?_loosen_self h)
      · rw [isSweptOut_cons_of_loose hs h hne]
        exact ih (loosen_isPlain hs x) hnodup (by rwa [at?_loosen_of_ne hne])

end Scaffold.Store
