import Scaffold.Path.Basic

/-!
# Reading paths

`IsRead` holds of every path that reading a text gives (`isRead_ofString`) and of what is located
below such a path (`IsRead.child`): no name is empty, a single dot or contains a slash. Such a path
is read back from its own text (`ofString_text`), so texts tell paths apart (`text_inj`). Joining is
associative (`join_assoc`). The paths above one are found by dropping the last name again and again
(`ancestors_concat`, `mem_ancestors`). Many texts are read with little work once they are spelled
out in characters (`Spells`).
-/

namespace Scaffold

inductive Spells : List String → List (List Char) → Prop
  | nil : Spells [] []
  | cons {s : String} {cs : List Char} {texts : List String} {css : List (List Char)}
      (h : s = String.ofList cs) (hs : Spells texts css) : Spells (s :: texts) (cs :: css)

theorem Spells.eq_map {texts : List String} {css : List (List Char)} (h : Spells texts css) :
    texts = css.map String.ofList := by
  induction h with
  | nil => rfl
  | cons h _ ih => rw [List.map_cons, ← h, ← ih]

end Scaffold

namespace Scaffold.Path

/-- A segment that can be a name of a path. -/
def IsSegment (name : String) : Prop := name ≠ "" ∧ name ≠ "." ∧ '/' ∉ name.toList

def IsRead (p : Path) : Prop := ∀ name ∈ p.names, IsSegment name

theorem splitOn_slash_cons (cs : List Char) : ('/' :: cs).splitOn '/' = [] :: cs.splitOn '/' := by
  simpa using List.splitOn_append_cons_self (a := '/') [] cs

theorem not_mem_of_mem_splitOn {c : Char} {cs part : List Char} (h : part ∈ cs.splitOn c) :
    c ∉ part := by
  induction cs generalizing part with
  | nil => simp_all
  | cons d cs ih =>
    obtain ⟨first, rest, hs⟩ := List.exists_cons_of_ne_nil (List.splitOn_ne_nil c cs)
    rw [hs] at ih
    rw [List.splitOn_cons_eq_if_modifyHead, hs] at h
    split at h
    · rcases List.mem_cons.mp h with rfl | h
      · simp
      · exact ih h
    · next hd =>
      simp only [List.modifyHead_cons, List.mem_cons] at h
      rcases h with rfl | h
      · have hdc : d ≠ c := by simpa using hd
        simpa using ⟨hdc.symm, ih List.mem_cons_self⟩
      · exact ih (List.mem_cons_of_mem _ h)

theorem isRead_ofString (s : String) : (ofString s).IsRead := by
  intro name hn
  simp only [ofString, ofChars, List.mem_map, List.mem_filter] at hn
  obtain ⟨part, ⟨hp, hname⟩, rfl⟩ := hn
  simp only [isName, decide_eq_true_eq] at hname
  refine ⟨?_, ?_, by simpa using not_mem_of_mem_splitOn hp⟩
  · intro e; exact hname.1 (by simpa using congrArg String.toList e)
  · intro e; exact hname.2 (by simpa using congrArg String.toList e)

theorem anchorOf_eq_relative_iff {cs : List Char} :
    anchorOf cs = .relative ↔ cs.head? ≠ some '/' := by
  unfold anchorOf
  split
  · simp
  · split <;> simp
  · simp
  · next hne =>
    cases cs with
    | nil => simp
    | cons c cs =>
      refine iff_of_true rfl fun h => ?_
      cases h
      exact hne cs rfl

def named (cs : List Char) : List (List Char) := (cs.splitOn '/').filter isName

theorem names_ofChars (cs : List Char) : (ofChars cs).names = (named cs).map String.ofList := rfl

theorem ofString_ofList (cs : List Char) : ofString (String.ofList cs) = ofChars cs := by
  rw [ofString, String.toList_ofList]

theorem names_ofList (cs : List Char) :
    (ofString (String.ofList cs)).names = (named cs).map String.ofList := by
  rw [ofString_ofList, names_ofChars]

/-! ## Reading a text back -/

/-- The characters of names with slashes between them. -/
def inner (names : List String) : List Char := ['/'].intercalate (names.map String.toList)

theorem head?_intercalate {names : List (List Char)}
    (h : ∀ name ∈ names, name ≠ [] ∧ '/' ∉ name) :
    (['/'].intercalate names).head? ≠ some '/' := by
  cases names with
  | nil => simp
  | cons name more =>
    obtain ⟨hne, hslash⟩ := h name List.mem_cons_self
    obtain ⟨c, cs, rfl⟩ := List.exists_cons_of_ne_nil hne
    have hc : c ≠ '/' := fun e => hslash (e ▸ List.mem_cons_self)
    cases more <;> simpa [List.intercalate] using hc

theorem head?_inner {names : List String} (h : ∀ name ∈ names, IsSegment name) :
    (inner names).head? ≠ some '/' := by
  refine head?_intercalate ?_
  simp only [List.mem_map, forall_exists_index, and_imp]
  rintro _ name hm rfl
  exact ⟨by simpa using (h name hm).1, (h name hm).2.2⟩

theorem splitOn_inner {names : List String} (h : ∀ name ∈ names, IsSegment name) :
    (((inner names).splitOn '/').filter isName).map String.ofList = names := by
  by_cases hn : names = []
  · subst hn; simp [inner, isName]
  have hsplit : (inner names).splitOn '/' = names.map String.toList := by
    refine List.splitOn_intercalate '/' ?_ (by simpa using hn)
    simp only [List.mem_map, forall_exists_index, and_imp]
    rintro _ name hm rfl
    exact (h name hm).2.2
  have hall : (names.map String.toList).filter isName = names.map String.toList := by
    rw [List.filter_eq_self]
    simp only [List.mem_map, forall_exists_index, and_imp]
    rintro _ name hm rfl
    obtain ⟨h1, h2, -⟩ := h name hm
    simp only [isName, decide_eq_true_eq]
    refine ⟨by simpa using h1, fun e => h2 ?_⟩
    rw [← String.ofList_toList (s := name), e]
  rw [hsplit, hall, List.map_map]
  simp [Function.comp_def]

theorem toList_text {p : Path} (h : p.anchor ≠ .relative ∨ p.names ≠ []) :
    p.text.toList = (Anchor.text p.anchor).toList ++ inner p.names := by
  obtain ⟨anchor, names⟩ := p
  cases anchor <;> cases names <;>
    simp_all [text, inner, String.toList_intercalate, Anchor.text]

/-- A path is read back from its text. -/
theorem ofString_text {p : Path} (hr : p.IsRead) : ofString p.text = p := by
  obtain ⟨anchor, names⟩ := p
  have hsplit := splitOn_inner hr
  have hhead := head?_inner hr
  cases anchor with
  | relative =>
    by_cases hn : names = []
    · subst hn
      decide
    · have hanchor : anchorOf (inner names) = .relative := anchorOf_eq_relative_iff.mpr hhead
      rw [ofString, toList_text (.inr hn), show (Anchor.text .relative).toList = [] from rfl,
        List.nil_append, ofChars, hanchor, hsplit]
  | root =>
    rw [ofString, toList_text (.inl (by simp)), show (Anchor.text .root).toList = ['/'] from rfl,
      List.singleton_append]
    have hanchor : anchorOf ('/' :: inner names) = .root := by
      cases hi : inner names with
      | nil => rfl
      | cons c rest => unfold anchorOf; split <;> simp_all
    simp only [ofChars, hanchor, splitOn_slash_cons]
    simpa [isName] using hsplit
  | doubleRoot =>
    rw [ofString, toList_text (.inl (by simp)),
      show (Anchor.text .doubleRoot).toList = ['/', '/'] from rfl, List.cons_append,
      List.singleton_append]
    have hanchor : anchorOf ('/' :: '/' :: inner names) = .doubleRoot := by
      cases hi : inner names with
      | nil => rfl
      | cons c rest => simp_all [anchorOf]
    simp only [ofChars, hanchor, splitOn_slash_cons]
    simpa [isName] using hsplit

theorem text_inj {p q : Path} (hp : p.IsRead) (hq : q.IsRead) (h : p.text = q.text) : p = q := by
  rw [← ofString_text hp, h, ofString_text hq]

section

variable {p q : Path}

theorem join_of_anchored (h : q.isAnchored = true) : p.join q = q := by simp [join, h]

theorem join_of_not_anchored (h : q.isAnchored = false) :
    p.join q = ⟨p.anchor, p.names ++ q.names⟩ := by simp [join, h]

theorem join_assoc (p q r : Path) : (p.join q).join r = p.join (q.join r) := by
  cases hr : r.isAnchored with
  | true => rw [join_of_anchored hr, join_of_anchored hr, join_of_anchored hr]
  | false =>
    rw [join_of_not_anchored hr, join_of_not_anchored hr]
    -- `q` and `q` with more names behind it begin alike.
    have hinner : isAnchored ⟨q.anchor, q.names ++ r.names⟩ = q.isAnchored := rfl
    cases hq : q.isAnchored with
    | true => rw [join_of_anchored hq, join_of_anchored (hinner.trans hq)]
    | false =>
      rw [join_of_not_anchored hq, join_of_not_anchored (hinner.trans hq), List.append_assoc]

theorem IsRead.child (h : p.IsRead) (s : String) : (p.child s).IsRead := by
  have hs := isRead_ofString s
  unfold Path.child
  cases ha : (ofString s).isAnchored with
  | true => rwa [join_of_anchored ha]
  | false =>
    rw [join_of_not_anchored ha]
    exact List.forall_mem_append.mpr ⟨h, hs⟩

end

theorem properPrefixes_concat (names : List String) (name : String) :
    properPrefixes (names ++ [name]) = names :: properPrefixes names := by
  induction names with
  | nil => rfl
  | cons n names ih => simp [properPrefixes, ih]

theorem ancestors_concat (anchor : Anchor) (names : List String) (name : String) :
    ancestors ⟨anchor, names ++ [name]⟩ = ⟨anchor, names⟩ :: ancestors ⟨anchor, names⟩ := by
  simp [ancestors, properPrefixes_concat]

theorem mem_properPrefixes {names front : List String} :
    front ∈ properPrefixes names ↔ front <+: names ∧ front ≠ names := by
  induction names generalizing front with
  | nil => simp [properPrefixes]
  | cons n names ih =>
    cases front with
    | nil => simp [properPrefixes]
    | cons m front => simp [properPrefixes, ih, List.cons_prefix_cons]; grind

theorem mem_ancestors {p q : Path} :
    q ∈ p.ancestors ↔ q.anchor = p.anchor ∧ q.names <+: p.names ∧ q.names ≠ p.names := by
  simp only [ancestors, List.mem_map, mem_properPrefixes]
  constructor
  · rintro ⟨front, h, rfl⟩; exact ⟨rfl, h⟩
  · rintro ⟨ha, h⟩; exact ⟨q.names, h, by rw [← ha]⟩

end Scaffold.Path
