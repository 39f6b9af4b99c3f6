import Scaffold.Proofs.Path.Plain

/-!
# Lengths of paths

The text of a path grows with its names. So the paths above one that the system takes are taken too
(`Fits.of_suffix`), and a path below a root is taken if the root leaves room for it (`child_fits`).
-/

namespace Scaffold.Path

variable {anchor : Anchor} {names more : List String} {p q root : Path} {loc : Loc} {inner : String}

/-- The bytes of names with slashes between them. -/
def span (names : List String) : Nat := ("/".intercalate names).utf8ByteSize

theorem size_text (ha : anchor ≠ .relative) :
    (text ⟨anchor, names⟩).utf8ByteSize = (Anchor.text anchor).utf8ByteSize + span names := by
  have h : text ⟨anchor, names⟩ = Anchor.text anchor ++ "/".intercalate names := by
    cases anchor with
    | relative => exact absurd rfl ha
    | root => rfl
    | doubleRoot => rfl
  rw [h, String.utf8ByteSize_append]
  rfl

theorem span_append (hn : names ≠ []) (hm : more ≠ []) :
    span (names ++ more) = span names + 1 + span more := by
  unfold span
  rw [String.intercalate_append_of_ne_nil hn hm, String.utf8ByteSize_append,
    String.utf8ByteSize_append]
  rfl

theorem span_le_append : span names ≤ span (names ++ more) := by
  by_cases hn : names = []
  · simp [hn, span]
  · by_cases hm : more = []
    · simp [hm]
    · rw [span_append hn hm]
      omega

theorem span_append_le : span (names ++ more) ≤ span names + 1 + span more := by
  by_cases hn : names = []
  · simp [hn]
  · by_cases hm : more = []
    · simp [hm]
      omega
    · exact Nat.le_of_eq (span_append hn hm)

theorem size_text_le (hq : q.anchor = p.anchor) (ha : p.anchor ≠ .relative)
    (h : q.names <+: p.names) : q.text.utf8ByteSize ≤ p.text.utf8ByteSize := by
  obtain ⟨anchor, names⟩ := q
  obtain ⟨_, _⟩ := p
  obtain ⟨more, rfl⟩ := h
  subst hq
  rw [size_text ha, size_text ha]
  exact Nat.add_le_add_left span_le_append _

theorem Fits.of_suffix (h : p.Fits) (ha : p.anchor ≠ .relative) (hs : loc <:+ p.loc) :
    (pathTo p.anchor loc).Fits := by
  have hpre : (pathTo p.anchor loc).names <+: p.names := by
    simpa [Path.loc] using List.reverse_prefix.mpr hs
  refine ⟨?_, Nat.le_trans (size_text_le pathTo_anchor ha hpre) h.short,
    fun name hn => h.names name (hpre.subset hn)⟩
  have hnul := h.noNul
  simp only [hasNul, List.any_eq_false] at hnul ⊢
  exact fun name hn => hnul name (hpre.subset hn)

theorem IsPlain.of_mem_ancestors (h : p.IsPlain) (hq : q ∈ p.ancestors) : q.IsPlain := by
  obtain ⟨ha, hsuf, -⟩ := mem_ancestors_iff_loc.mp hq
  rw [← pathTo_loc q, ha]
  exact h.of_suffix hsuf

theorem Fits.of_mem_ancestors (h : p.Fits) (ha : p.anchor ≠ .relative) (hq : q ∈ p.ancestors) :
    q.Fits := by
  obtain ⟨hanchor, hsuf, -⟩ := mem_ancestors_iff_loc.mp hq
  rw [← pathTo_loc q, hanchor]
  exact h.of_suffix ha hsuf

/-- A path below a root fits if all its names do and the root leaves room for them. -/
theorem child_fits (hr : root.Fits) (ha : root.anchor ≠ .relative) (hin : IsInner inner)
    (hnul : (ofString inner).hasNul = false)
    (hnames : ∀ name ∈ (ofString inner).names, name.utf8ByteSize ≤ Store.nameLimit)
    (hroom : root.text.utf8ByteSize + 1 + span (ofString inner).names ≤ Store.pathLimit) :
    (root.child inner).Fits := by
  rw [child_of_isInner hin]
  refine ⟨?_, ?_, fun name hn => ?_⟩
  · have hrn := hr.noNul
    simp only [hasNul, List.any_append, Bool.or_eq_false_iff] at hrn hnul ⊢
    exact ⟨hrn, hnul⟩
  · have hroot : root.text.utf8ByteSize = (Anchor.text root.anchor).utf8ByteSize +
        span root.names := size_text ha
    rw [size_text ha]
    have := @span_append_le root.names (ofString inner).names
    omega
  · rcases List.mem_append.mp hn with hn | hn
    · exact hr.names name hn
    · exact hnames name hn

end Scaffold.Path
