import Mathlib.Logic.Relation
import Scaffold.Proofs.Path.Plain
import Scaffold.Site

/-!
# Spellings of paths

One path has many texts: `.` segments, slashes at the end and doubled slashes name nothing. An edit
(`Respells`) takes one of these out and leaves the slashes at the start as they are; texts joined by
edits in either direction are spellings of each other (`SpellsSame`). Every text comes by edits to
the slashes it begins with and the names behind them (`respells_tidy`), so two texts are spellings
of each other exactly if they begin with the same slashes and are read as the same path
(`spellsSame_iff`). Together with the laws of joining this says what the paths located on a site,
and so the keys of a ledger, depend on (`spelling_immaterial`).
-/

namespace Scaffold

namespace Path

variable {cs ds front back segment rest : List Char}

def leadingSlashes (cs : List Char) : Nat := (cs.takeWhile (· = '/')).length

theorem anchorOf_eq (cs : List Char) :
    anchorOf cs = match leadingSlashes cs with
      | 0 => .relative
      | 2 => .doubleRoot
      | _ => .root := by
  match cs with
  | [] => rfl
  | [c] => by_cases hc : c = '/' <;> simp [anchorOf, leadingSlashes, hc]
  | [c, d] =>
    by_cases hc : c = '/' <;> by_cases hd : d = '/' <;> simp [anchorOf, leadingSlashes, hc, hd]
  | c :: d :: e :: rest =>
    by_cases hc : c = '/' <;> by_cases hd : d = '/' <;> by_cases he : e = '/' <;>
      simp [anchorOf, leadingSlashes, hc, hd, he]

theorem anchor_ofString_congr {s t : String}
    (h : leadingSlashes s.toList = leadingSlashes t.toList) :
    (ofString s).anchor = (ofString t).anchor := by
  rw [ofString, ofString, ofChars, ofChars, anchorOf_eq, anchorOf_eq, h]

theorem eq_iff_names {p q : Path} (h : p.anchor = q.anchor) : p = q ↔ p.names = q.names := by
  obtain ⟨_, _⟩ := p
  obtain ⟨_, _⟩ := q
  subst h
  simp

/-- The start of a text is over: not only slashes stand in `front`. -/
def PastStart (front : List Char) : Prop := ∃ c ∈ front, c ≠ '/'

theorem PastStart.append (h : PastStart front) (back : List Char) : PastStart (front ++ back) :=
  h.imp fun _ hc => ⟨List.mem_append_left _ hc.1, hc.2⟩

theorem pastStart_append_segment (h : PastStart front ∨ segment ≠ []) (hslash : '/' ∉ segment) :
    PastStart (front ++ segment) := by
  rcases h with h | h
  · exact h.append segment
  · obtain ⟨c, rest, rfl⟩ := List.exists_cons_of_ne_nil h
    exact ⟨c, by simp, fun e => hslash (e ▸ List.mem_cons_self)⟩

/-- What comes past the start, or begins without a slash, adds nothing to the slashes there. -/
theorem leadingSlashes_append (h : PastStart front ∨ back.head? ≠ some '/') :
    leadingSlashes (front ++ back) = leadingSlashes front := by
  induction front with
  | nil =>
    have hback : back.head? ≠ some '/' := by simpa [PastStart] using h
    cases back with
    | nil => rfl
    | cons c back =>
      have hc : c ≠ '/' := by simpa using hback
      simp [leadingSlashes, hc]
  | cons c front ih =>
    by_cases hc : c = '/'
    · have := ih (by simpa [PastStart, hc] using h)
      simpa [leadingSlashes, hc] using this
    · simp [leadingSlashes, hc]

/-! ## Edits -/

/-- Behind `front` a segment begins. -/
def OpensSegment (front : List Char) : Prop := front = [] ∨ ['/'] <:+ front

/-- `Drops cs ds`: `ds` is `cs` without something that names nothing. -/
inductive Drops : List Char → List Char → Prop
  /-- A `.` segment and the slash behind it. -/
  | dot (front back : List Char) (h : OpensSegment front) :
    Drops (front ++ '.' :: '/' :: back) (front ++ back)
  /-- A `.` segment at the end. -/
  | lastDot (front : List Char) (h : OpensSegment front) : Drops (front ++ ['.']) front
  /-- A slash at the end. -/
  | lastSlash (front : List Char) : Drops (front ++ ['/']) front
  /-- One slash of two. -/
  | slash (front back : List Char) : Drops (front ++ '/' :: '/' :: back) (front ++ '/' :: back)

/-- An edit of a text: it drops what names nothing, but no slash at the start, nor does it bring one
there. -/
def Respells (cs ds : List Char) : Prop := Drops cs ds ∧ leadingSlashes cs = leadingSlashes ds

/-- Edits, each made or taken back, lead from one text to the other. -/
def SpellsSame (s t : String) : Prop := Relation.EqvGen Respells s.toList t.toList

theorem named_append_slash (front back : List Char) :
    named (front ++ '/' :: back) = named front ++ named back := by
  rw [named, List.splitOn_append_cons_self, List.filter_append, named, named]

theorem Drops.named_eq (h : Drops cs ds) : named cs = named ds := by
  have hnil : named [] = [] := rfl
  have hdot : named ['.'] = [] := rfl
  cases h with
  | dot front back hfront =>
    obtain rfl | ⟨f, rfl⟩ := hfront
    · exact named_append_slash ['.'] back
    · have hbehind := named_append_slash ['.'] back
      simp only [List.append_assoc, List.singleton_append, named_append_slash] at hbehind ⊢
      rw [hbehind, hdot, List.nil_append]
  | lastDot front hfront =>
    obtain rfl | ⟨f, rfl⟩ := hfront
    · rfl
    · rw [List.append_assoc, List.singleton_append, named_append_slash, named_append_slash, hdot,
        hnil]
  | lastSlash => rw [named_append_slash, hnil, List.append_nil]
  | slash front back =>
    have hback : named ('/' :: back) = named back := named_append_slash [] back
    rw [named_append_slash, named_append_slash, hback]

theorem start_and_named (h : Relation.EqvGen Respells cs ds) :
    leadingSlashes cs = leadingSlashes ds ∧ named cs = named ds := by
  induction h with
  | rel _ _ h => exact ⟨h.2, h.1.named_eq⟩
  | refl => exact ⟨rfl, rfl⟩
  | symm _ _ _ ih => exact ⟨ih.1.symm, ih.2.symm⟩
  | trans _ _ _ _ _ ih₁ ih₂ => exact ⟨ih₁.1.trans ih₂.1, ih₁.2.trans ih₂.2⟩

/-! ## The tidy spelling -/

/-- The slashes that a text begins with, and its names with single slashes between them. -/
def tidy (cs : List Char) : List Char :=
  List.replicate (leadingSlashes cs) '/' ++ ['/'].intercalate (named cs)

theorem not_isName_iff : ¬ isName segment ↔ segment = [] ∨ segment = ['.'] := by
  simp [isName, Classical.or_iff_not_imp_left]

/-- A segment that names nothing goes with the slash behind it. -/
theorem respells_blank (hopen : OpensSegment front) (hblank : ¬ isName segment)
    (hstart : PastStart front ∨ segment ≠ []) (hrest : rest.head? ≠ some '/') :
    Respells (front ++ segment ++ '/' :: rest) (front ++ rest) := by
  rcases not_isName_iff.mp hblank with rfl | rfl
  · have hpast := hstart.resolve_right (· rfl)
    obtain rfl | ⟨f, rfl⟩ := hopen
    · exact absurd hpast (by simp [PastStart])
    · have hf : PastStart f := by simpa [PastStart, or_and_right, exists_or] using hpast
      have hstays (back : List Char) : leadingSlashes (f ++ back) = leadingSlashes f :=
        leadingSlashes_append (.inl hf)
      simp only [List.append_assoc, List.singleton_append]
      exact ⟨.slash _ _, (hstays _).trans (hstays _).symm⟩
  · rw [List.append_assoc]
    refine ⟨.dot _ _ hopen, ?_⟩
    rw [leadingSlashes_append (.inr hrest)]
    exact leadingSlashes_append (.inr (by simp))

theorem respells_lastBlank (hopen : OpensSegment front) (hblank : ¬ isName segment) :
    Relation.EqvGen Respells (front ++ segment) front := by
  rcases not_isName_iff.mp hblank with rfl | rfl
  · rw [List.append_nil]
    exact .refl _
  · exact .rel _ _ ⟨.lastDot _ hopen, leadingSlashes_append (.inr (by simp))⟩

/-- A segment in front of tidy ones is tidied: a name stays, without the slash behind it where
nothing follows, and anything else goes. -/
theorem tidied_segment {names : List (List Char)} (hopen : OpensSegment front)
    (hstart : PastStart front ∨ segment ≠ []) (hslash : '/' ∉ segment)
    (hnames : (['/'].intercalate names).head? ≠ some '/') :
    Relation.EqvGen Respells (front ++ segment ++ '/' :: ['/'].intercalate names)
      (front ++ ['/'].intercalate ([segment].filter isName ++ names)) := by
  by_cases hname : isName segment
  · rw [List.filter_cons_of_pos hname, List.filter_nil, List.singleton_append]
    by_cases hnil : names = []
    · have hpast : PastStart (front ++ segment) := pastStart_append_segment hstart hslash
      rw [hnil, List.intercalate_singleton]
      exact .rel _ _ ⟨.lastSlash _, leadingSlashes_append (.inl hpast)⟩
    · rw [List.intercalate_cons_of_ne_nil hnil, ← List.append_assoc, ← List.append_assoc,
        List.append_cons]
      exact .refl _
  · rw [List.filter_cons_of_neg hname, List.filter_nil, List.nil_append]
    exact .rel _ _ (respells_blank hopen hname hstart hnames)

/-- Segments are tidied from the last one on: dropping a `.` segment in front of a doubled slash
could bring slashes to the start. -/
theorem tidied_segments {segments : List (List Char)} (hne : segments ≠ [])
    (hslash : ∀ segment ∈ segments, '/' ∉ segment) (hopen : OpensSegment front)
    (hstart : PastStart front ∨ (['/'].intercalate segments).head? ≠ some '/') :
    Relation.EqvGen Respells (front ++ ['/'].intercalate segments)
      (front ++ ['/'].intercalate (segments.filter isName)) := by
  induction segments generalizing front with
  | nil => exact absurd rfl hne
  | cons segment rest ih =>
    obtain ⟨hsegment, hrest⟩ := List.forall_mem_cons.mp hslash
    by_cases hlast : rest = []
    · subst hlast
      rw [List.intercalate_singleton]
      by_cases hname : isName segment
      · rw [List.filter_cons_of_pos hname, List.filter_nil, List.intercalate_singleton]
        exact .refl _
      · rw [List.filter_cons_of_neg hname, List.filter_nil, List.intercalate_nil,
          List.append_nil]
        exact respells_lastBlank hopen hname
    · have hseg : PastStart front ∨ segment ≠ [] := by
        refine hstart.imp_right fun h => ?_
        rintro rfl
        exact h (by simp [List.intercalate_cons_of_ne_nil hlast])
      have hnames : (['/'].intercalate (rest.filter isName)).head? ≠ some '/' := by
        refine head?_intercalate fun name hn => ?_
        obtain ⟨hin, hname⟩ := List.mem_filter.mp hn
        simp only [isName, decide_eq_true_eq] at hname
        exact ⟨hname.1, hrest name hin⟩
      have hpast : PastStart (front ++ segment ++ ['/']) :=
        (pastStart_append_segment hseg hsegment).append _
      have htail := ih hlast hrest (.inr ⟨front ++ segment, rfl⟩) (.inl hpast)
      have hsplit : (segment :: rest).filter isName =
          [segment].filter isName ++ rest.filter isName := List.filter_append [segment] rest
      rw [hsplit, List.intercalate_cons_of_ne_nil hlast]
      refine .trans _ _ _ ?_ (tidied_segment hopen hseg hsegment hnames)
      simpa only [List.append_assoc, List.singleton_append] using htail

theorem opensSegment_slashes (n : Nat) : OpensSegment (List.replicate n '/') := by
  cases n with
  | zero => exact .inl rfl
  | succ n => exact .inr ⟨List.replicate n '/', List.replicate_succ'.symm⟩

theorem named_slashes_append (n : Nat) (back : List Char) :
    named (List.replicate n '/' ++ back) = named back := by
  induction n with
  | zero => rfl
  | succ n ih => exact (named_append_slash [] _).trans ih

theorem exists_behind_slashes (cs : List Char) :
    ∃ back, cs = List.replicate (leadingSlashes cs) '/' ++ back ∧ back.head? ≠ some '/' := by
  refine ⟨cs.dropWhile (· = '/'), ?_, fun h => ?_⟩
  · have hall : cs.takeWhile (· = '/') = List.replicate (leadingSlashes cs) '/' :=
      List.eq_replicate_iff.mpr
        ⟨rfl, fun c hc => by simpa using List.all_eq_true.mp List.all_takeWhile c hc⟩
    rw [← hall, List.takeWhile_append_dropWhile]
  · simpa [h] using List.head?_dropWhile_not (· = '/') cs

/-- Every text comes by edits to its tidy spelling. -/
theorem respells_tidy (cs : List Char) : Relation.EqvGen Respells cs (tidy cs) := by
  obtain ⟨back, hcs, hback⟩ := exists_behind_slashes cs
  have htidied := tidied_segments (List.splitOn_ne_nil '/' back)
    (fun _ h => not_mem_of_mem_splitOn h) (opensSegment_slashes (leadingSlashes cs))
    (.inr (by rwa [List.intercalate_splitOn]))
  have hnamed : named cs = named back := by rw [hcs, named_slashes_append]
  rw [List.intercalate_splitOn, ← hcs] at htidied
  rwa [tidy, hnamed]

theorem eqvGen_respells_iff : Relation.EqvGen Respells cs ds ↔
    leadingSlashes cs = leadingSlashes ds ∧ named cs = named ds := by
  refine ⟨start_and_named, fun ⟨hstart, hnamed⟩ => ?_⟩
  have htidy : tidy cs = tidy ds := by rw [tidy, tidy, hstart, hnamed]
  exact .trans _ _ _ (respells_tidy cs) (htidy ▸ .symm _ _ (respells_tidy ds))

/-- Two texts are spellings of each other exactly if they begin with the same slashes and are read
as the same path. -/
theorem spellsSame_iff {s t : String} : SpellsSame s t ↔
    leadingSlashes s.toList = leadingSlashes t.toList ∧ ofString s = ofString t := by
  rw [SpellsSame, eqvGen_respells_iff]
  refine and_congr_right fun hstart => ?_
  rw [eq_iff_names (anchor_ofString_congr hstart), ofString, ofString, names_ofChars, names_ofChars,
    List.map_inj_right fun _ _ => String.ofList_injective]

/-- Edits keep off the start: a dropped segment must not leave its slash there. -/
example : ¬ SpellsSame ".//a" "/a" := by
  rw [spellsSame_iff]
  decide

/-! ## Located paths -/

variable {root : Path} {s t : String}

/-- Texts that begin with the same slashes lead to the same path only if they are read as the same
path. -/
theorem child_eq_child_iff (h : leadingSlashes s.toList = leadingSlashes t.toList) :
    root.child s = root.child t ↔ ofString s = ofString t := by
  have hanchor := anchor_ofString_congr h
  have halike : (ofString s).isAnchored = (ofString t).isAnchored := by
    rw [isAnchored, isAnchored, hanchor]
  unfold child
  cases ht : (ofString t).isAnchored with
  | true => rw [join_of_anchored ht, join_of_anchored (halike.trans ht)]
  | false =>
    rw [join_of_not_anchored ht, join_of_not_anchored (halike.trans ht), eq_iff_names hanchor]
    simp only [mk.injEq, List.append_cancel_left_eq, true_and]

/-- What is read from where one stands lies strictly below, unless it names nothing. -/
theorem mem_ancestors_child (h : (ofString s).anchor = .relative) :
    root ∈ (root.child s).ancestors ↔ ∃ segment ∈ s.toList.splitOn '/', isName segment := by
  have hinner : (ofString s).isAnchored = false := by simp [isAnchored, h]
  have hnames : (ofString s).names ≠ [] ↔ ∃ segment ∈ s.toList.splitOn '/', isName segment := by
    simp [ofString, names_ofChars, named]
  rw [child, join_of_not_anchored hinner, mem_ancestors, ← hnames]
  simp

end Path

/-- **Spelling does not matter.** Adding or dropping `.` segments, slashes at the end and doubled
slashes, but none at the start, does not change where a path is located on a site; and of the texts
that begin with the same slashes no others are located there. The text of a located path, which is
its key in the ledger, is read as that path again. Locating in two steps is locating the joined
path, whatever is anchored or empty. A path that is not anchored lies strictly below the root of the
site exactly if one of its segments is neither empty nor a dot. -/
theorem spelling_immaterial (t p q : String) (defaults : Template.Data) :
    let site : Site := ⟨Path.ofString t, defaults⟩
    (∀ other, Path.SpellsSame p other ↔
        Path.leadingSlashes p.toList = Path.leadingSlashes other.toList ∧
          site.locate p = site.locate other) ∧
      Path.ofString (site.locate p).text = site.locate p ∧
      (site.locate p).child q = site.root.join ((Path.ofString p).child q) ∧
      ((Path.ofString p).anchor = .relative →
        (site.root ∈ (site.locate p).ancestors ↔
          ∃ segment ∈ p.toList.splitOn '/', Path.isName segment)) := by
  intro site
  refine ⟨fun other => ?_, ?_, ?_, Path.mem_ancestors_child⟩
  · rw [Path.spellsSame_iff]
    exact and_congr_right fun h => (Path.child_eq_child_iff h).symm
  · exact Path.ofString_text ((Path.isRead_ofString t).child p)
  · exact Path.join_assoc _ _ _

/-- A root behind two slashes, and a path with something of everything that names nothing. -/
theorem spelling_immaterial_of_untidy :
    let site : Site := ⟨Path.ofString "//srv/app/", []⟩
    Path.SpellsSame ".///src/./db//." "src/db" ∧
      (site.locate ".///src/./db//.").text = "//srv/app/src/db" ∧
      Path.ofString "//srv/app/src/db" = site.locate ".///src/./db//." ∧
      (site.locate ".///src/./db//.").child "//etc" = Path.ofString "//etc" ∧
      (Path.ofString ".///src/./db//.").anchor = .relative ∧
      site.root ∈ (site.locate ".///src/./db//.").ancestors := by
  intro site
  obtain ⟨hsame, hread, hjoined, hbelow⟩ :=
    spelling_immaterial "//srv/app/" ".///src/./db//." "//etc" []
  have htext : (site.locate ".///src/./db//.").text = "//srv/app/src/db" := by decide
  have hrelative : (Path.ofString ".///src/./db//.").anchor = .relative := by decide
  exact ⟨(hsame "src/db").mpr (by decide), htext, htext ▸ hread, hjoined.trans (by decide),
    hrelative, (hbelow hrelative).mpr (by decide)⟩

end Scaffold
