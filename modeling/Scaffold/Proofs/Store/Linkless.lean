import Scaffold.Proofs.Path.Fitting
import Scaffold.Proofs.Store.Plain

/-!
# Stores without links

In a store without links a path is walked in one stretch (`place_entry_iff`), and names that are no
dots lead downwards, one after the other. So what a path leads to is found below what the path
without its last names leads to, just where these names say (`place_append`).
-/

namespace Scaffold

/-- A name that leads one place down. -/
def IsStep (name : String) : Prop := name ≠ "" ∧ name ≠ "." ∧ name ≠ ".."

theorem Path.short_of_append {anchor : Anchor} {names more : List String}
    (h : (text ⟨anchor, names ++ more⟩).utf8ByteSize ≤ Store.pathLimit) :
    (text ⟨anchor, names⟩).utf8ByteSize ≤ Store.pathLimit := by
  have hspan : span names ≤ span (names ++ more) := span_le_append
  cases anchor with
  | relative =>
    cases names with
    | nil => decide
    | cons name names => exact Nat.le_trans hspan h
  | root | doubleRoot =>
    rw [size_text (by simp)] at h ⊢
    omega

namespace Store

variable {s : Store} {p : Path} {aim : Aim} {here loc : Loc} {anchor : Anchor} {name : String}
  {names more : List String}

theorem mem_entries_of_at? {e : Entry} (hne : loc ≠ []) (h : s.at? loc = some e) :
    (loc, e) ∈ s.entries := by
  rw [at?, if_neg hne, List.lookup_eq_some_iff] at h
  obtain ⟨front, back, hsplit, -⟩ := h
  rw [hsplit]
  simp

theorem linkless_of_entries (h : ∀ e ∈ s.entries, e.2.isLink = false) (l : Loc) (target : String) :
    s.at? l ≠ some (.link target) := by
  intro hat
  by_cases hne : l = []
  · rw [hne, at?_root] at hat; cases hat
  · cases h _ (mem_entries_of_at? hne hat)

theorem isPlain_of_entries
    (h : ∀ e ∈ s.entries, e.2.isLink = false ∧ s.isDirectoryAt e.1.tail = true) : s.IsPlain := by
  refine ⟨linkless_of_entries fun e he => (h e he).1, fun name dir hsome => ?_⟩
  obtain ⟨e, he⟩ := Option.isSome_iff_exists.mp hsome
  exact isDirectoryAt_iff.mp (h _ (mem_entries_of_at? (List.cons_ne_nil name dir) he)).2

theorem advance_ne_atLink (hl : ∀ l target, s.at? l ≠ some (.link target)) {dir : Loc}
    {target : String} {rest : List String} :
    s.advance aim here names ≠ .atLink dir target rest := by
  induction names generalizing here with
  | nil => nofun
  | cons m names ih =>
    unfold advance
    repeat' split
    all_goals first
      | exact ih
      | exact absurd ‹_› (hl _ _)
      | simp

theorem place_entry_iff (hl : ∀ l target, s.at? l ≠ some (.link target)) :
    s.place aim p = .entry loc ↔
      p.text.utf8ByteSize ≤ pathLimit ∧ s.advance aim [] p.names = .ended (.entry loc) := by
  unfold place
  split
  · next hlong => exact iff_of_false nofun fun h => by omega
  · next hshort =>
    rw [and_iff_right (by omega), linkLimit, walk]
    split
    · next hpl => rw [hpl, Stretch.ended.injEq]
    · next hpl => exact absurd hpl (advance_ne_atLink hl)

theorem advance_down (hl : ∀ l target, s.at? l ≠ some (.link target))
    (hm : ∀ name ∈ more, IsStep name) (h : s.advance .target here more = .ended (.entry loc)) :
    loc = more.reverse ++ here := by
  induction more generalizing here with
  | nil => cases h; rfl
  | cons name more ih =>
    obtain ⟨hempty, hdot, hdots⟩ := hm name List.mem_cons_self
    rw [advance, if_neg (by simp [hempty, hdot] : ¬(name = "." ∨ name = "")), if_neg hdots,
      if_neg (by simp : ¬(Aim.target = .creation ∧ more ≠ [] ∧ (more.all (· = "")) = true))] at h
    split at h
    · cases h
    split at h
    · cases h
    split at h
    · split at h <;> cases h
    · exact absurd ‹_› (hl _ _)
    · rw [List.reverse_cons, List.append_assoc]
      exact ih (fun n hn => hm n (List.mem_cons_of_mem _ hn)) h

-- Not for the aim of creating a file: that one is refused at a last slash, which a path may have
-- and its continuation not.
theorem advance_append (hl : ∀ l target, s.at? l ≠ some (.link target))
    (hm : ∀ name ∈ more, IsStep name)
    (h : s.advance .target here (names ++ more) = .ended (.entry loc)) :
    ∃ dir, s.advance .target here names = .ended (.entry dir) ∧ loc = more.reverse ++ dir := by
  induction names generalizing here with
  | nil => exact ⟨here, rfl, advance_down hl hm h⟩
  | cons name names ih =>
    rw [List.cons_append, advance] at h
    rw [advance]
    split at h
    · cases h
    next hdir =>
    rw [if_neg hdir]
    split at h
    · next hdot => rw [if_pos hdot]; exact ih h
    next hdot =>
    rw [if_neg hdot]
    split at h
    · next hdots => rw [if_pos hdots]; exact ih h
    next hdots =>
    rw [if_neg hdots, if_neg (by simp)]
    rw [if_neg (by simp)] at h
    split at h
    · cases h
    next hfits =>
    rw [if_neg hfits]
    cases hat : s.at? (name :: here) with
    | none => rw [hat] at h; dsimp only at h; split at h <;> cases h
    | some e =>
      rw [hat] at h
      cases e with
      | link target => exact absurd hat (hl _ _)
      | file content | directory => exact ih h

/-- Where a path leads is found below where the path without its last steps leads. -/
theorem place_append (hl : ∀ l target, s.at? l ≠ some (.link target))
    (hm : ∀ name ∈ more, IsStep name) (h : s.place .target ⟨anchor, names ++ more⟩ = .entry loc) :
    ∃ dir, s.place .target ⟨anchor, names⟩ = .entry dir ∧ loc = more.reverse ++ dir := by
  obtain ⟨hshort, hadv⟩ := (place_entry_iff hl).mp h
  obtain ⟨dir, hdir, hloc⟩ := advance_append hl hm hadv
  exact ⟨dir, (place_entry_iff hl).mpr ⟨Path.short_of_append hshort, hdir⟩, hloc⟩

/-- What a path leads to has the last name of the path. -/
theorem place_last (hl : ∀ l target, s.at? l ≠ some (.link target)) (hn : IsStep name)
    (hp : p.names.getLast? = some name) (h : s.place .target p = .entry loc) :
    loc.head? = some name := by
  obtain ⟨names, hnames⟩ := List.getLast?_eq_some_iff.mp hp
  have hpath : p = ⟨p.anchor, names ++ [name]⟩ := by rw [← hnames]
  rw [hpath] at h
  obtain ⟨dir, -, hloc⟩ := place_append hl (by simpa using hn) h
  rw [hloc]
  rfl

end Store

end Scaffold
