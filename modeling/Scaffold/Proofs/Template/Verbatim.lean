import Mathlib.Data.List.Induction
import Mathlib.Data.List.Nodup
import Scaffold.Proofs.Template.Placeholders
import Scaffold.Proofs.Template.Source
import Scaffold.Proofs.Template.Tame

/-!
# Verbatim rendering

A template of literal text and placeholders renders as the same text with the values in the place of
the placeholders, character by character, whatever the values look like and whatever else the data
hold (`render_verbatim`).
-/

namespace Scaffold.Template

variable {first path : String} {rest : List (String × String)} {value : String → String}
  {data : Data} {fr : Frame} {ns : List Node} {us : List Use} {x : String}

/-! ## Slots -/

theorem firstUses_concat (us : List Use) (u : Use) : firstUses (us ++ [u]) =
    if (firstUses us).any fun v => v.name = u.name then firstUses us else firstUses us ++ [u] := by
  rw [firstUses, List.foldl_append]
  rfl

theorem firstUses_subset : firstUses us ⊆ us := by
  induction us using List.reverseRecOn with
  | nil => exact List.Subset.refl []
  | append_singleton us u ih =>
    rw [firstUses_concat]
    split
    · exact List.subset_append_of_subset_left _ ih
    · exact List.append_subset.mpr
        ⟨List.subset_append_of_subset_left _ ih, List.subset_append_right _ _⟩

theorem firstUses_nodup : ((firstUses us).map Use.name).Nodup := by
  induction us using List.reverseRecOn with
  | nil => exact List.nodup_nil
  | append_singleton us u ih =>
    rw [firstUses_concat]
    split
    · exact ih
    · next hnew =>
      have hfresh : u.name ∉ (firstUses us).map Use.name := by
        rw [List.mem_map]
        rintro ⟨v, hv, hname⟩
        exact hnew (List.any_eq_true.mpr ⟨v, hv, by simpa using hname⟩)
      rw [List.map_append, List.map_singleton, ← List.concat_eq_append]
      exact List.Nodup.concat hfresh ih

theorem name_mem_firstUses {u : Use} (h : u ∈ us) : u.name ∈ (firstUses us).map Use.name := by
  induction us using List.reverseRecOn with
  | nil => cases h
  | append_singleton us v ih =>
    rw [firstUses_concat]
    rcases List.mem_append.mp h with h | h
    · split
      · exact ih h
      · rw [List.map_append]
        exact List.mem_append_left _ (ih h)
    · obtain rfl := List.mem_singleton.mp h
      split
      · next hold =>
        obtain ⟨w, hw, hname⟩ := List.any_eq_true.mp hold
        exact List.mem_map.mpr ⟨w, hw, by simpa using hname⟩
      · rw [List.map_append]
        exact List.mem_append_right _ (by simp)

def readNames (rest : List (String × String)) : List Use := rest.map fun part => .read part.1

theorem nodeUses_ofText (targetFirst inside : Bool) (text : String) (ns : List Node) :
    nodeUses targetFirst inside (Node.ofText text ++ ns) = nodeUses targetFirst inside ns := by
  unfold Node.ofText
  split <;> rfl

theorem nodeUses_writtenNodes (targetFirst inside : Bool) :
    nodeUses targetFirst inside (writtenNodes first rest) = readNames rest := by
  induction rest generalizing first with
  | nil =>
    have h := nodeUses_ofText targetFirst inside first []
    rw [List.append_nil] at h
    exact h
  | cons part rest ih =>
    rw [writtenNodes, nodeUses_ofText, nodeUses, ih]
    rfl

theorem readsItself_writtenNodes (hself : ∀ part ∈ rest, part.1 ≠ selfName) :
    readsItself (writtenNodes first rest) = false := by
  have hnone : (readNames rest).find? (fun u => u.name = selfName) = none := by
    rw [List.find?_eq_none]
    intro u hu
    obtain ⟨part, hpart, rfl⟩ := List.mem_map.mp hu
    exact fun hname => hself part hpart (of_decide_eq_true hname)
  rw [readsItself, nodeUses_writtenNodes, hnone]

/-- The slots of names that are only read. -/
def readSlots (us : List Use) : List Slot := (firstUses us).map fun u => ⟨u.name, .data⟩

/-- All names start with what the data have for them. -/
theorem ofNodes_writtenNodes (hself : ∀ part ∈ rest, part.1 ≠ selfName) :
    Slot.ofNodes (writtenNodes first rest) = readSlots (readNames rest) := by
  have hslots : (firstUses (readNames rest)).map (fun u => Slot.mk u.name u.origin) =
      readSlots (readNames rest) := by
    refine List.map_congr_left fun u hu => ?_
    obtain ⟨part, -, rfl⟩ := List.mem_map.mp (firstUses_subset hu)
    rfl
  have hpartition : (readSlots (readNames rest)).partition (fun slot => slot.origin = .nowhere) =
      ([], readSlots (readNames rest)) := by
    have hdata : ∀ slot ∈ readSlots (readNames rest), slot.origin = .data := by
      intro slot hslot
      obtain ⟨u, -, rfl⟩ := List.mem_map.mp hslot
      rfl
    rw [List.partition_eq_filter_filter, List.filter_eq_nil_iff.mpr, List.filter_eq_self.mpr]
    · intro slot hslot
      simp [hdata slot hslot]
    · intro slot hslot
      simp [hdata slot hslot]
  rw [Slot.ofNodes, readsItself_writtenNodes hself, nodeUses_writtenNodes]
  simp only [Bool.false_and, Bool.not_false, List.filter_true, hslots, hpartition, List.append_nil]
  rfl

theorem compose_of_isIdentifier (h : isIdentifier x.toList = true) : Text.compose x = x :=
  Text.compose_ascii x (List.all_eq_true.mpr fun _ hc =>
    decide_eq_true (toNat_lt_of_isNameCharacter (isNameCharacter_of_mem h hc)))

/-- Every placeholder is free, and the data have a text for it. -/
structure AreGiven (rest : List (String × String)) (value : String → String) (data : Data) :
    Prop where
  free : ∀ part ∈ rest, IsFreeName part.1
  texts : ∀ part ∈ rest, data.lookup part.1 = some (.str (value part.1))

theorem AreGiven.not_self (h : AreGiven rest value data) : ∀ part ∈ rest, part.1 ≠ selfName := by
  intro part hpart hname
  exact (h.free part hpart).notTaken (by rw [hname]; decide)

theorem mem_readSlots {slot : Slot} (hs : slot ∈ readSlots (readNames rest)) :
    ∃ part ∈ rest, slot = ⟨part.1, .data⟩ := by
  obtain ⟨u, hu, rfl⟩ := List.mem_map.mp hs
  obtain ⟨part, hpart, rfl⟩ := List.mem_map.mp (firstUses_subset hu)
  exact ⟨part, hpart, rfl⟩

theorem startsSimple_of_areGiven (h : AreGiven rest value data) :
    ∀ slot ∈ readSlots (readNames rest), slot.StartsSimple data := by
  intro slot hslot
  obtain ⟨part, hpart, rfl⟩ := mem_readSlots hslot
  refine ⟨nofun, fun x hx => ?_, fun hnone => ?_⟩
  · rw [h.texts part hpart, Option.some_inj] at hx
    rw [← hx]
    rfl
  · rw [h.texts part hpart] at hnone
    cases hnone

theorem read_of_areGiven (h : AreGiven rest value data) {part : String × String}
    (hpart : part ∈ rest) (template : String) :
    (Frame.start template (readSlots (readNames rest)) data).read part.1 =
      .str (value part.1) := by
  have hmem : (⟨part.1, .data⟩ : Slot) ∈ readSlots (readNames rest) := by
    have hu : Use.read part.1 ∈ readNames rest := List.mem_map_of_mem hpart
    obtain ⟨u, hu, hname⟩ := List.mem_map.mp (name_mem_firstUses hu)
    exact List.mem_map.mpr ⟨u, hu, congrArg (Slot.mk · .data) hname⟩
  have hnames : (readSlots (readNames rest)).map (fun slot => Text.compose slot.name) =
      (firstUses (readNames rest)).map Use.name := by
    rw [readSlots, List.map_map]
    refine List.map_congr_left fun u hu => ?_
    obtain ⟨other, hother, rfl⟩ := List.mem_map.mp (firstUses_subset hu)
    exact compose_of_isIdentifier (h.free other hother).isIdentifier
  refine read_start hmem ?_ (h.texts part hpart)
  rw [hnames]
  exact firstUses_nodup

theorem tameNodes_of_isPlain (h : ∀ n ∈ ns, n.IsPlain) : tameNodes ns = true := by
  induction ns with
  | nil => rfl
  | cons n ns ih =>
    obtain ⟨hn, hns⟩ := List.forall_mem_cons.mp h
    rw [tameNodes, ih hns]
    cases hn <;> rfl

theorem nodesMeaning_ofText {text shown : String} (hns : nodesMeaning fr ns = (shown, fr)) :
    nodesMeaning fr (Node.ofText text ++ ns) = (text ++ shown, fr) := by
  unfold Node.ofText
  split
  · next hempty =>
    have htext : text = "" := by simpa using hempty
    rw [htext, String.empty_append]
    exact hns
  · exact nodesMeaning_cons rfl hns

theorem nodesMeaning_writtenNodes
    (hread : ∀ part ∈ rest, fr.read part.1 = .str (value part.1)) :
    nodesMeaning fr (writtenNodes first rest) = (written value first rest, fr) := by
  induction rest generalizing first with
  | nil =>
    have h : nodesMeaning fr (Node.ofText first ++ []) = (first ++ "", fr) :=
      nodesMeaning_ofText rfl
    rwa [List.append_nil, String.append_empty] at h
  | cons part rest ih =>
    obtain ⟨hpart, hrest⟩ := List.forall_mem_cons.mp hread
    have hname : (Node.output (.name part.1)).meaning fr = (value part.1, fr) := by
      rw [Node.meaning, Expr.meaning, hpart, Value.text_str]
    exact nodesMeaning_ofText (nodesMeaning_cons hname (ih hrest))

/-! ## Rendering -/

theorem return_notMem_written (hrest : AreFreeParts rest) (hfirst : IsLiteral first) :
    '\r' ∉ (written placeholder first rest).toList := by
  induction rest generalizing first with
  | nil => exact hfirst.noReturn
  | cons part rest ih =>
    obtain ⟨⟨hx, hnext⟩, hrest⟩ := List.forall_mem_cons.mp hrest
    have hname : '\r' ∉ part.1.toList := fun hin =>
      absurd (isNameCharacter_of_mem hx.isIdentifier hin) (by decide)
    rw [toList_written_cons, toList_placeholder]
    simp [hfirst.noReturn, hname, ih hrest hnext]

/-- The tree of a template with placeholders renders as the text with the values in their place. -/
theorem render_writtenTree (h : AreGiven rest value data) (hself : data.lookup selfName = none)
    (m : Memory) :
    (writtenTree path first rest).render data m = (.ok (written value first rest), m) := by
  have hread : ∀ part ∈ rest, (Frame.start path (readSlots (readNames rest)) data).read part.1 =
      .str (value part.1) := fun part hpart => read_of_areGiven h hpart path
  rw [writtenTree, ofNodes_writtenNodes h.not_self, Tree.render_of_startsSimple
    (tameNodes_of_isPlain writtenNodes_isPlain) hself (startsSimple_of_areGiven h), Tree.meaning,
    nodesMeaning_writtenNodes hread]

/-- **Rendering is verbatim.** A template of literal text and placeholders that a library finds and
does not keep yet renders as this text with the values in the place of the placeholders, whatever
texts the values are, whatever else the data hold and whatever was rendered before. Only a datum
under the name of the template itself is refused. -/
theorem render_verbatim {lib : Library engine} {s : Store} {file : Path}
    (hkept : lib.kept.lookup path = none) (hthere : lib.holds s path = .ok true)
    (hsource : lib.source? s path = some file)
    (hfile : s.LeadsTo file (written placeholder first rest).toUTF8) (hfirst : IsLiteral first)
    (hrest : ∀ part ∈ rest, IsFreeName part.1 ∧ IsLiteral part.2)
    (htexts : ∀ part ∈ rest, data.lookup part.1 = some (.str (value part.1))) :
    (lib.render s path data).1 =
      if (data.lookup selfName).isSome then .error (.rendering .typeMismatch)
      else .ok (written value first rest) := by
  have hread : s.readText file = .ok (written placeholder first rest).toList := by
    rw [hfile.readText_toUTF8, Text.unifyLineEnds_of_notMem (return_notMem_written hrest hfirst)]
  have hload : lib.load s path = .ok (writtenTree path first rest) := by
    refine Library.load_ok_iff.mpr ⟨_, ?_, compile_written hfirst hrest⟩
    rw [Library.sourceText, hthere, hsource]
    exact hread
  rw [Library.render_of_load hkept hload]
  simp only [Library.renderTree, engine]
  cases hself : data.lookup selfName with
  | some x => rw [Tree.render, hself]; rfl
  | none =>
    have hgiven : AreGiven rest value data := ⟨fun part hpart => (hrest part hpart).1, htexts⟩
    rw [render_writtenTree hgiven hself]
    rfl

/-- Text with braces in it, and names behind it of which one comes twice. -/
def pageParts : List (String × String) :=
  [("name", " </p>\n"), ("_x1", "\n\n\x7d\x7d %\x7d"), ("name", "#\x7d\n")]

/-- Values that look like tags and like markup. -/
def pageValue (x : String) : String :=
  if x = "name" then "\x7b\x7b _x1 \x7d\x7d & <b>\r\n" else "\x7b% if %\x7d "

def pageData : Data :=
  [("helpers", .null), ("_x1", .str (pageValue "_x1")), ("name", .str (pageValue "name")),
    ("other", .int 1)]

/-- A disk with a template at `/t/page.j2`. -/
def pageStore : Store := (Store.empty.insert ["t"] .directory).insert ["page.j2", "t"]
  (.file (written placeholder "<p>\x7b " pageParts).toUTF8)

/-- Values are printed as they are, and nothing around them is lost. -/
theorem render_verbatim_of_page :
    let lib : Library engine := .new (some ⟨.root, ["t"]⟩)
    lib.kept.lookup "page.j2" = none ∧ lib.holds pageStore "page.j2" = .ok true ∧
      lib.source? pageStore "page.j2" = some ⟨.root, ["t", "page.j2"]⟩ ∧
      pageStore.LeadsTo ⟨.root, ["t", "page.j2"]⟩
        (written placeholder "<p>\x7b " pageParts).toUTF8 ∧
      IsLiteral "<p>\x7b " ∧ (∀ part ∈ pageParts, IsFreeName part.1 ∧ IsLiteral part.2) ∧
      (∀ part ∈ pageParts, pageData.lookup part.1 = some (.str (pageValue part.1))) ∧
      (lib.render pageStore "page.j2" pageData).1 = .ok (.ofString
        ("<p>\x7b \x7b\x7b _x1 \x7d\x7d & <b>\r\n </p>\n" ++ "\x7b% if %\x7d \n\n\x7d\x7d %\x7d" ++
          "\x7b\x7b _x1 \x7d\x7d & <b>\r\n#\x7d\n")) := by
  intro lib
  have hkept : lib.kept.lookup "page.j2" = none := rfl
  have hthere : lib.holds pageStore "page.j2" = .ok true := by decide
  have hsource : lib.source? pageStore "page.j2" = some ⟨.root, ["t", "page.j2"]⟩ := by
    decide
  have hfile : pageStore.LeadsTo ⟨.root, ["t", "page.j2"]⟩
      (written placeholder "<p>\x7b " pageParts).toUTF8 :=
    ⟨by decide, ["page.j2", "t"], by decide +kernel, Store.at?_insert_self (by decide)⟩
  have hfirst : IsLiteral "<p>\x7b " := by decide
  have hrest : ∀ part ∈ pageParts, IsFreeName part.1 ∧ IsLiteral part.2 := by decide
  have htexts : ∀ part ∈ pageParts,
      pageData.lookup part.1 = some (.str (pageValue part.1)) := by
    have hname : pageData.lookup "name" = some (.str (pageValue "name")) := rfl
    have hother : pageData.lookup "_x1" = some (.str (pageValue "_x1")) := rfl
    simp [pageParts, hname, hother]
  refine ⟨hkept, hthere, hsource, hfile, hfirst, hrest, htexts, ?_⟩
  rw [render_verbatim hkept hthere hsource hfile hfirst hrest htexts]
  decide

end Scaffold.Template
