import Scaffold.Proofs.Path.Reading
import Scaffold.Store.Ops

/-!
# Plain paths

A plain path starts at the root and goes only inwards; where no links stand it leads to the place
`loc` that its names spell, and `pathTo` is the way back. What a site locates under a text that
is `IsInner` lies on the site (`root_suffix_child`, `child_isPlain`).
-/

namespace Scaffold

/-- A text that stays where it is read: it does not start at the root and has no `..`. -/
def IsInner (text : String) : Prop :=
  (Path.ofString text).anchor = .relative ∧ ".." ∉ (Path.ofString text).names

instance (text : String) : Decidable (IsInner text) := by unfold IsInner; infer_instance

namespace Path

/-- The place that the names of a path spell. -/
def loc (p : Path) : Loc := p.names.reverse

/-- A path from the root on whose names are all names of entries. -/
structure IsPlain (p : Path) : Prop where
  anchored : p.anchor ≠ .relative
  isRead : p.IsRead
  inward : ".." ∉ p.names

/-- The system takes the path: it has no NUL, and neither a name nor the whole is too long. -/
structure Fits (p : Path) : Prop where
  noNul : p.hasNul = false
  short : p.text.utf8ByteSize ≤ Store.pathLimit
  names : ∀ name ∈ p.names, name.utf8ByteSize ≤ Store.nameLimit

def pathTo (anchor : Anchor) (loc : Loc) : Path := ⟨anchor, loc.reverse⟩

/-- A place strictly below the one that `root` spells. -/
def IsAbove (root : Path) (loc : Loc) : Prop := root.loc <:+ loc ∧ root.loc ≠ loc

instance (root : Path) (loc : Loc) : Decidable (root.IsAbove loc) := by
  unfold IsAbove; infer_instance

variable {p q root : Path} {anchor : Anchor} {loc other : Loc}

@[simp] theorem loc_pathTo : (pathTo anchor loc).loc = loc := by simp [Path.loc, pathTo]

@[simp] theorem pathTo_loc (p : Path) : pathTo p.anchor p.loc = p := by simp [Path.loc, pathTo]

@[simp] theorem pathTo_names : (pathTo anchor loc).names = loc.reverse := rfl

@[simp] theorem pathTo_anchor : (pathTo anchor loc).anchor = anchor := rfl

theorem loc_parent (p : Path) : p.parent.loc = p.loc.tail := by
  simp [Path.loc, parent, List.tail_reverse]

theorem pathTo_eq_root : pathTo root.anchor loc = root ↔ loc = root.loc :=
  ⟨fun h => by rw [← h, loc_pathTo], fun h => by rw [h, pathTo_loc]⟩

theorem mem_ancestors_iff_loc :
    q ∈ p.ancestors ↔ q.anchor = p.anchor ∧ q.loc <:+ p.loc ∧ q.loc ≠ p.loc := by
  have hpre : q.names <+: p.names ↔ q.loc <:+ p.loc := by
    rw [Path.loc, Path.loc, List.reverse_suffix]
  have hne : q.names ≠ p.names ↔ q.loc ≠ p.loc := by
    rw [Path.loc, Path.loc, Ne, Ne, List.reverse_inj]
  rw [mem_ancestors, hpre, hne]

theorem root_mem_ancestors : root ∈ (pathTo root.anchor loc).ancestors ↔ root.IsAbove loc := by
  rw [mem_ancestors_iff_loc, loc_pathTo, IsAbove]
  exact and_iff_right rfl

theorem IsPlain.of_suffix (h : p.IsPlain) (hs : loc <:+ p.loc) :
    (pathTo p.anchor loc).IsPlain where
  anchored := h.anchored
  isRead name hn := h.isRead name (by
    have : name ∈ p.loc := hs.subset (by simpa using hn)
    simpa [Path.loc] using this)
  inward hn := h.inward (by
    have : ".." ∈ p.loc := hs.subset (by simpa using hn)
    simpa [Path.loc] using this)

theorem IsPlain.pathTo_suffix (h : (pathTo anchor loc).IsPlain) (hs : other <:+ loc) :
    (pathTo anchor other).IsPlain := by
  have hloc : other <:+ (pathTo anchor loc).loc := by rw [loc_pathTo]; exact hs
  exact h.of_suffix hloc

theorem IsPlain.parent (h : p.IsPlain) : p.parent.IsPlain where
  anchored := h.anchored
  isRead name hn := h.isRead name (List.dropLast_subset _ hn)
  inward hn := h.inward (List.dropLast_subset _ hn)

theorem ofString_isPlain {text : String} (ha : (ofString text).anchor ≠ .relative)
    (hn : ".." ∉ (ofString text).names) : (ofString text).IsPlain :=
  ⟨ha, isRead_ofString text, hn⟩

theorem IsPlain.ofString_text (h : p.IsPlain) : ofString p.text = p :=
  Path.ofString_text h.isRead

/-- Texts tell the places of plain paths apart. -/
theorem text_pathTo_inj (hp : (pathTo anchor loc).IsPlain) (hq : (pathTo anchor other).IsPlain) :
    (pathTo anchor loc).text = (pathTo anchor other).text ↔ loc = other := by
  refine ⟨fun h => ?_, fun h => by rw [h]⟩
  have := text_inj hp.isRead hq.isRead h
  simpa using congrArg Path.loc this

variable {text : String}

theorem child_of_isInner (h : IsInner text) :
    root.child text = ⟨root.anchor, root.names ++ (ofString text).names⟩ :=
  join_of_not_anchored (by simp [isAnchored, h.1])

theorem anchor_child (h : IsInner text) : (root.child text).anchor = root.anchor := by
  rw [child_of_isInner h]

theorem child_isPlain (hr : root.IsPlain) (h : IsInner text) : (root.child text).IsPlain := by
  refine ⟨?_, hr.isRead.child text, fun hn => ?_⟩
  · rw [anchor_child h]
    exact hr.anchored
  · rw [child_of_isInner h] at hn
    rcases List.mem_append.mp hn with hn | hn
    · exact hr.inward hn
    · exact h.2 hn

theorem root_suffix_child (h : IsInner text) : root.loc <:+ (root.child text).loc := by
  rw [child_of_isInner h]
  simp [Path.loc]

end Path

end Scaffold
