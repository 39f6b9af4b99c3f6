import Scaffold.Proofs.Template.Confined

/-!
# Three ways to look a template up

A path can be asked about, read as it is, or rendered. Reading misses the file just where the answer
to the question is no (`readStatic_missing_iff`). Rendering misses the template there too, and also
where the file is there but no source is found (`render_missing_iff`): on paths that go outwards,
and on paths with a first slash without such a file below the root. `lookups_compared` puts the
three together; that they do not agree on all paths is `lookups_disagree`.
-/

namespace Scaffold

open Store

namespace Template

section

variable {α : Type}

def IsMissingTemplate (x : Except Fault α) : Prop :=
  ∃ path resolved, x = .error (.templateMissing path resolved)

def IsMissingStatic (x : Except Fault α) : Prop :=
  ∃ path resolved, x = .error (.staticMissing path resolved)

end

namespace Library

variable {E : Engine} {lib : Library E} {s : Store} {path : String} {there : Bool} {f : Fault}

/-- A question about a short path is only refused where a link leads to too long a name. -/
theorem holds_error (hp : (lib.locate path).IsShort) (h : lib.holds s path = .error f) :
    s.HasLongLink := by
  unfold holds isFile? at h
  cases hl : s.look .target (lib.locate path) with
  | error g => exact look_error (by simp) hp hl
  | ok found => rw [hl] at h; cases h

/-- For a path that stays inside, the question is about the file that the source is read from. -/
theorem isFile?_source (hin : ".." ∉ Path.segments path) (hhead : path.toList.head? ≠ some '/')
    (hh : lib.holds s path = .ok there) :
    s.isFile? ⟨lib.root.anchor, lib.root.names ++ Path.steps path⟩ = .ok there := by
  have hinner : IsInner path := by
    refine ⟨Path.anchorOf_eq_relative_iff.mpr hhead, ?_⟩
    rw [Path.names_ofString]
    exact mt Path.outward_mem_steps.mp hin
  rwa [holds, locate_of_isInner hinner] at hh

theorem readStatic_missing_iff (hh : lib.holds s path = .ok there) :
    IsMissingStatic (lib.readStatic s path) ↔ there = false := by
  change s.isFile? (lib.locate path) = .ok there at hh
  unfold readStatic
  simp only [hh, bind, Except.bind]
  cases there with
  | false => exact iff_of_true ⟨_, _, rfl⟩ rfl
  | true =>
    refine iff_of_false ?_ nofun
    rintro ⟨p, r, hr⟩
    cases ht : s.readText (lib.locate path) with
    | ok source => rw [ht] at hr; cases hr
    | error g =>
      rw [ht] at hr
      cases hr
      rcases readText_error ht with h | h | ⟨why, h⟩ <;> cases h

/-- A source that was found may be unreadable or unusable, but it is not missing. -/
theorem load_missing_iff (hh : lib.holds s path = .ok there) :
    IsMissingTemplate (lib.load s path) ↔ there = false ∨ lib.source? s path = none := by
  unfold load sources
  simp only [hh, bind, Except.bind]
  cases there with
  | false => exact iff_of_true ⟨_, _, rfl⟩ (.inl rfl)
  | true =>
    cases lib.source? s path with
    | none => exact iff_of_true ⟨_, _, rfl⟩ (.inr rfl)
    | some file =>
      refine iff_of_false ?_ (by simp)
      rintro ⟨p, r, hr⟩
      cases ht : s.readText file with
      | error g =>
        simp only [ht] at hr
        cases hr
        rcases readText_error ht with h | h | ⟨why, h⟩ <;> cases h
      | ok source =>
        simp only [ht, Except.map] at hr
        cases ho : E.compile path source with
        | ok tree => rw [ho] at hr; cases hr
        | error flaw => rw [ho] at hr; cases hr

theorem render_missing_iff (hk : lib.kept.lookup path = none)
    (hh : lib.holds s path = .ok there) (data : Data) :
    IsMissingTemplate (lib.render s path data).1 ↔ there = false ∨ lib.source? s path = none := by
  rw [← load_missing_iff hh]
  cases hl : lib.load s path with
  | ok tree =>
    rw [render_of_load hk hl]
    refine iff_of_false ?_ nofun
    rintro ⟨p, r, hr⟩
    obtain ⟨why, hwhy⟩ := renderTree_error hr
    cases hwhy
  | error g => rw [render_of_unloadable hk hl]; simp [IsMissingTemplate]

/-! ## The three together -/

/-- **Which lookups agree.** For a path that is not kept, whatever the disk: the question about it
is answered unless some name is too long for the system. The answer is yes just if reading the file
does not miss it. Rendering does not miss the template just if the answer is yes, no segment of the
path is `..`, and, where the path starts with a slash, the same steps lead to a file below the root.
-/
theorem lookups_compared (s : Store) (hk : lib.kept.lookup path = none) (data : Data) :
    ((lib.locate path).IsShort → ¬ s.HasLongLink → ∃ there, lib.holds s path = .ok there) ∧
      ∀ there, lib.holds s path = .ok there →
        (there = true ↔ ¬ IsMissingStatic (lib.readStatic s path)) ∧
        (¬ IsMissingTemplate (lib.render s path data).1 ↔
          there = true ∧ ".." ∉ Path.segments path ∧
            (path.toList.head? = some '/' →
              s.isFile? ⟨lib.root.anchor, lib.root.names ++ Path.steps path⟩ = .ok true)) := by
  refine ⟨fun hp hl => ?_, fun there hh => ⟨?_, ?_⟩⟩
  · cases hh : lib.holds s path with
    | ok there => exact ⟨there, rfl⟩
    | error f => exact absurd (holds_error hp hh) hl
  · rw [readStatic_missing_iff hh, Bool.not_eq_false]
  · rw [render_missing_iff hk hh, not_or, Bool.not_eq_false, Option.eq_none_iff_forall_ne_some]
    refine and_congr_right fun hthere => ?_
    subst hthere
    simp only [ne_eq, source?_eq_some_iff, not_forall, not_not]
    constructor
    · rintro ⟨file, hin, rfl, hfile⟩
      exact ⟨hin, fun _ => hfile⟩
    · rintro ⟨hin, hfile⟩
      by_cases hhead : path.toList.head? = some '/'
      · exact ⟨_, hin, rfl, hfile hhead⟩
      · exact ⟨_, hin, rfl, isFile?_source hin hhead hh⟩

end Library

/-- Two templates of one name, and a directory beside the inner one. -/
def nestedTemplates : Store := twoTemplates.insert ["sub", "t"] .directory

theorem nestedTemplates_linkless (loc : Loc) (target : String) :
    nestedTemplates.at? loc ≠ some (.link target) :=
  linkless_of_entries (by decide) loc target

/-- Asked about and read is a file that a first slash leads to; rendered would be one inside the
root, which is not there. -/
theorem lookups_compared_outside :
    let lib : Library engine := .new (some (Path.ofString "/t"))
    lib.kept.lookup "/t/a.j2" = none ∧ (lib.locate "/t/a.j2").IsShort ∧
      ¬ nestedTemplates.HasLongLink ∧ lib.holds nestedTemplates "/t/a.j2" = .ok true ∧
      ¬ IsMissingStatic (lib.readStatic nestedTemplates "/t/a.j2") ∧
      IsMissingTemplate (lib.render nestedTemplates "/t/a.j2" []).1 := by
  intro lib
  have hkept : lib.kept.lookup "/t/a.j2" = none := rfl
  have hshort : (lib.locate "/t/a.j2").IsShort := by decide
  have hlinks : ¬ nestedTemplates.HasLongLink :=
    fun ⟨loc, target, hat, _⟩ => nestedTemplates_linkless loc target hat
  have hinside : nestedTemplates.isFile? ⟨lib.root.anchor, lib.root.names ++ Path.steps "/t/a.j2"⟩ =
      .ok false := by decide
  have hyes : lib.holds nestedTemplates "/t/a.j2" = .ok true := by decide
  obtain ⟨hstatic, htemplate⟩ := (Library.lookups_compared nestedTemplates hkept []).2 true hyes
  refine ⟨hkept, hshort, hlinks, hyes, hstatic.mp rfl, not_not.mp fun hfound => ?_⟩
  have hthere := (htemplate.mp hfound).2.2 rfl
  rw [hinside] at hthere
  cases hthere

/-- The three lookups of a path agree: the question is answered, and with yes just if neither of the
others misses the file. -/
def LookupsAgree {E : Engine} (lib : Library E) (s : Store) (path : String) (data : Data) : Prop :=
  ∃ there, lib.holds s path = .ok there ∧
    (there = true ↔ ¬ IsMissingStatic (lib.readStatic s path)) ∧
    (there = true ↔ ¬ IsMissingTemplate (lib.render s path data).1)

/-- In a library at the root of the disk the question about too long a name is refused. -/
theorem holds_of_longName {name : String} (hread : Path.ofString name = ⟨.relative, [name]⟩)
    (hnul : '\x00' ∉ name.toList) (hlong : nameLimit < name.utf8ByteSize) (s : Store) :
    ∃ f, (.new (some ⟨.root, []⟩) : Library engine).holds s name = .error f := by
  have hlocate : (.new (some ⟨.root, []⟩) : Library engine).locate name = ⟨.root, [name]⟩ := by
    change Path.join ⟨.root, []⟩ (Path.ofString name) = _
    rw [hread]
    rfl
  have hstep : ∀ short : String, short.utf8ByteSize ≤ nameLimit → name ≠ short := by
    rintro short hshort rfl
    omega
  have hpl : s.place .target ⟨.root, [name]⟩ = .refused .nameTooLong := by
    unfold place
    split
    · rfl
    have hadv : s.advance .target [] [name] = .ended (.refused .nameTooLong) := by
      simp [advance, isDirectoryAt, at?_root, Entry.isDirectory, hlong, hstep "" (by decide),
        hstep "." (by decide), hstep ".." (by decide)]
    rw [linkLimit, walk, hadv]
  refine ⟨.refused .nameTooLong (Path.text ⟨.root, [name]⟩), ?_⟩
  rw [Library.holds, hlocate, isFile?, look, probe, hpl]
  simp [Path.hasNul, hnul, Refusal.meansAbsent, Except.map]

def longName : String := String.ofList (List.replicate 256 'a')

/-- The lookups part where the way to a file turns back, and the question about too long a name is
refused. -/
theorem lookups_disagree :
    ¬ LookupsAgree (.new (some ⟨.root, ["t"]⟩) : Library engine) nestedTemplates
        "sub/../a.j2" [] ∧
      ¬ LookupsAgree (.new (some ⟨.root, []⟩) : Library engine) nestedTemplates longName [] := by
  constructor
  · rintro ⟨there, hholds, -, hrender⟩
    have hyes : (.new (some ⟨.root, ["t"]⟩) : Library engine).holds nestedTemplates
        "sub/../a.j2" = .ok true := by decide
    rw [hyes] at hholds
    cases hholds
    refine hrender.mp rfl ⟨"sub/../a.j2", "/t/sub/../a.j2", ?_⟩
    decide
  · rintro ⟨there, hholds, -, -⟩
    have hchars : longName.toList = List.replicate 256 'a' := String.toList_ofList
    have hread : Path.ofString longName = ⟨.relative, [longName]⟩ := by
      have hsplit : (List.replicate 256 'a').splitOn '/' = [List.replicate 256 'a'] := by
        decide +kernel
      rw [Path.ofString, hchars, Path.ofChars, hsplit]
      rfl
    have hnul : '\x00' ∉ longName.toList := by
      rw [hchars, List.mem_replicate]
      decide
    obtain ⟨f, hno⟩ := holds_of_longName hread hnul (by decide +kernel) nestedTemplates
    rw [hholds] at hno
    cases hno

end Template

end Scaffold
