import Scaffold.Store.Ops

/-!
# Stores that grow

`Keeps s t` says that everything in `s` is still in `t`: links and directories as they were, files
as files, perhaps with other content. Making directories and writing keep a store, whatever links it
has (`makeDirs_keeps`, `writeBelow_keeps`), and where something was found before it is found again
(`Keeps.place_entry`).
-/

namespace Scaffold

/-- An entry without the content of a file. -/
def Entry.shape : Entry → Entry
  | .file _ => .file .empty
  | e => e

namespace Store

/-- Everything stays, up to the content of files. -/
def Keeps (s t : Store) : Prop :=
  ∀ loc e, s.at? loc = some e → (t.at? loc).map Entry.shape = some e.shape

variable {s t u : Store} {p : Path} {aim : Aim} {here loc dir : Loc} {name : String}
  {names : List String} {e : Entry}

theorem Keeps.refl (s : Store) : Keeps s s := fun _ _ h => by simp [h]

theorem Keeps.trans (h1 : Keeps s t) (h2 : Keeps t u) : Keeps s u := fun loc e he => by
  obtain ⟨e1, he1, hs⟩ := Option.map_eq_some_iff.mp (h1 loc e he)
  rw [h2 loc e1 he1, hs]

theorem Keeps.isSome (h : Keeps s t) (hs : (s.at? loc).isSome) : (t.at? loc).isSome := by
  obtain ⟨e, he⟩ := Option.isSome_iff_exists.mp hs
  have := h loc e he
  cases ht : t.at? loc <;> simp_all

theorem Keeps.at?_eq_none (h : Keeps s t) (hn : t.at? loc = none) : s.at? loc = none := by
  cases hs : s.at? loc with
  | none => rfl
  | some e =>
    have hback : (t.at? loc).isSome := h.isSome (by simp [hs])
    rw [hn] at hback; cases hback

theorem Keeps.directory (h : Keeps s t) (hs : s.at? loc = some .directory) :
    t.at? loc = some .directory := by
  obtain ⟨e, he, hsh⟩ := Option.map_eq_some_iff.mp (h loc _ hs)
  rw [he]
  cases e <;> simp_all [Entry.shape]

theorem Keeps.file (h : Keeps s t) {content : ByteArray} (hs : s.at? loc = some (.file content)) :
    ∃ content', t.at? loc = some (.file content') := by
  obtain ⟨e, he, hsh⟩ := Option.map_eq_some_iff.mp (h loc _ hs)
  rw [he]
  cases e <;> simp_all [Entry.shape]

theorem Keeps.link (h : Keeps s t) {target : String} (hs : s.at? loc = some (.link target)) :
    t.at? loc = some (.link target) := by
  obtain ⟨e, he, hsh⟩ := Option.map_eq_some_iff.mp (h loc _ hs)
  rw [he]
  cases e <;> simp_all [Entry.shape]

theorem Keeps.isDirectoryAt (h : Keeps s t) (hs : s.isDirectoryAt loc = true) :
    t.isDirectoryAt loc = true := by
  unfold Store.isDirectoryAt at hs ⊢
  cases he : s.at? loc with
  | none => simp [he] at hs
  | some e =>
    cases e with
    | directory => simp [h.directory he, Entry.isDirectory]
    | file content => simp [he, Entry.isDirectory] at hs
    | link target => simp [he, Entry.isDirectory] at hs

/-! ## Walks in a store that is kept -/

/-- A stretch that does not fail is walked again: it ends at the same entry or meets the same
link. -/
theorem Keeps.advance (h : Keeps s t) {stretch : Stretch} (hs : s.advance aim here names = stretch)
    (hfound : (∃ loc, stretch = .ended (.entry loc)) ∨ ∃ dir target rest,
      stretch = .atLink dir target rest) :
    t.advance aim here names = stretch := by
  induction names generalizing here with
  | nil => exact hs
  | cons name rest ih =>
    unfold Store.advance at hs ⊢
    split at hs
    · subst hs; simp at hfound
    next hd =>
    rw [if_neg (by simp [h.isDirectoryAt (by simpa using hd)])]
    split at hs
    · next hdot => rw [if_pos hdot]; exact ih hs
    next hdot =>
    rw [if_neg hdot]
    split at hs
    · next hup => rw [if_pos hup]; exact ih hs
    next hup =>
    rw [if_neg hup]
    split at hs
    · subst hs; simp at hfound
    next hslash =>
    rw [if_neg hslash]
    split at hs
    · subst hs; simp at hfound
    next hlong =>
    rw [if_neg hlong]
    split at hs
    · split at hs <;> subst hs <;> simp at hfound
    · next target hl => rw [h.link hl]; exact hs
    · next e hne he =>
      obtain ⟨e', he', hsh⟩ := Option.map_eq_some_iff.mp (h _ _ he)
      rw [he']
      cases e' with
      | link target => cases e <;> simp_all [Entry.shape]
      | file content => exact ih hs
      | directory => exact ih hs

theorem Keeps.walk_entry (h : Keeps s t) {links : Nat}
    (hs : s.walk aim here names links = .entry loc) :
    t.walk aim here names links = .entry loc := by
  induction links generalizing here names with
  | zero =>
    unfold Store.walk at hs ⊢
    split at hs
    · next pl hpl =>
      subst hs
      rw [h.advance hpl (.inl ⟨loc, rfl⟩)]
    · cases hs
  | succ links ih =>
    unfold Store.walk at hs ⊢
    split at hs
    · next pl hpl =>
      subst hs
      rw [h.advance hpl (.inl ⟨loc, rfl⟩)]
    · next dir target rest hl =>
      rw [h.advance hl (.inr ⟨dir, target, rest, rfl⟩)]
      exact ih hs

/-- A path leads again where it led before. -/
theorem Keeps.place_entry (h : Keeps s t) (hs : s.place aim p = .entry loc) :
    t.place aim p = .entry loc := by
  unfold place at hs ⊢
  split at hs
  · cases hs
  · next hlong => rw [if_neg hlong]; exact h.walk_entry hs

theorem advance_vacant (h : s.advance aim here names = .ended (.vacant dir name)) :
    s.at? (name :: dir) = none := by
  induction names generalizing here with
  | nil => cases h
  | cons m rest ih =>
    unfold advance at h
    repeat' split at h
    all_goals first
      | exact ih h
      | cases h
    assumption

theorem walk_vacant {links : Nat} (h : s.walk aim here names links = .vacant dir name) :
    s.at? (name :: dir) = none := by
  induction links generalizing here names with
  | zero =>
    unfold walk at h
    split at h
    · next hpl => subst h; exact advance_vacant hpl
    · cases h
  | succ links ih =>
    unfold walk at h
    split at h
    · next hpl => subst h; exact advance_vacant hpl
    · exact ih h

theorem at?_of_place_vacant (h : s.place aim p = .vacant dir name) :
    s.at? (name :: dir) = none := by
  unfold place at h
  split at h
  · cases h
  · exact walk_vacant h

/-! ## What keeps a store -/

theorem Keeps.insert_vacant (h : s.at? (name :: dir) = none) (e : Entry) :
    Keeps s (s.insert (name :: dir) e) := by
  intro loc e' he
  have hne : loc ≠ name :: dir := by rintro rfl; rw [h] at he; cases he
  rw [at?_insert_of_ne hne, he]; rfl

theorem Keeps.insert_file {old : ByteArray} (h : s.at? loc = some (.file old))
    (content : ByteArray) : Keeps s (s.insert loc (.file content)) := by
  have hn : loc ≠ [] := by rintro rfl; rw [at?_root] at h; cases h
  intro other e he
  by_cases ho : other = loc
  · subst ho
    rw [h] at he
    cases he
    rw [at?_insert_self hn]; rfl
  · rw [at?_insert_of_ne ho, he]; rfl

theorem makeDir_keeps (h : s.makeDir p = .ok t) : Keeps s t := by
  unfold makeDir at h
  split at h
  · cases h
  split at h
  · cases h
  · next hpl => cases h; exact .insert_vacant (at?_of_place_vacant hpl) _
  · cases h

theorem makeDirsAt_keeps (anchor : Anchor) (names : List String) (s : Store) :
    Keeps s (makeDirsAt anchor names s).2 := by
  induction names generalizing s with
  | nil =>
    unfold makeDirsAt
    split
    · next ht => exact makeDir_keeps ht
    · exact .refl s
  | cons name outer ih =>
    have hup := ih s
    unfold makeDirsAt
    simp only
    split
    · next ht => exact makeDir_keeps ht
    · split
      · next he => rw [he] at hup; exact hup
      · next he =>
        rw [he] at hup
        split
        · next hu => exact hup.trans (makeDir_keeps hu)
        · exact hup
        · exact hup
    · exact .refl s

theorem makeDirs_keeps (s : Store) (p : Path) : Keeps s (s.makeDirs p).2 :=
  makeDirsAt_keeps _ _ s

section

variable {ε α β : Type} {x : Except ε α} {err : ε}

theorem map_ne_error (h : x ≠ .error err) (g : α → β) : x.map g ≠ .error err := by
  cases x with
  | ok a => nofun
  | error f => exact fun hf => h (congrArg Except.error (Except.error.inj hf))

theorem bind_ne_error {g : α → Except ε β} (h : x ≠ .error err) (hg : ∀ a, g a ≠ .error err) :
    x >>= g ≠ .error err := by
  cases x with
  | ok a => exact hg a
  | error f => exact fun hf => h (congrArg Except.error (Except.error.inj hf))

end

theorem look_ne_unencodable {α : Type} {aim : Aim} (g : Option (Loc × Entry) → α) :
    (s.look aim p).map g ≠ .error .unencodable := by
  unfold look
  cases s.probe aim p <;> nofun

theorem makeDir_ne_unencodable : s.makeDir p ≠ .error .unencodable := by
  unfold makeDir
  repeat' split
  all_goals nofun

theorem toleratePresent_ne_unencodable {f : Fault} (hf : f ≠ .unencodable) :
    toleratePresent s p f ≠ .error .unencodable := by
  unfold toleratePresent
  split
  · split
    · nofun
    · exact fun h => hf (Except.error.inj h)
    · next g hg =>
      intro h
      cases h
      exact look_ne_unencodable _ hg
  · exact fun h => hf (Except.error.inj h)

theorem makeDirsAt_ne_unencodable (anchor : Anchor) (names : List String) (s : Store) :
    (makeDirsAt anchor names s).1 ≠ .error .unencodable := by
  have htolerate {u : Store} {q : Path} {f : Fault} (h : u.makeDir q = .error f) :
      toleratePresent u q f ≠ .error .unencodable :=
    toleratePresent_ne_unencodable fun hf => makeDir_ne_unencodable (hf ▸ h)
  induction names generalizing s with
  | nil =>
    unfold makeDirsAt
    split
    · nofun
    · next hm => exact htolerate hm
  | cons name outer ih =>
    have hup := ih s
    unfold makeDirsAt
    simp only
    split
    · nofun
    · split
      · next he => rw [he] at hup; exact hup
      · split
        · nofun
        · nofun
        · next hm => exact htolerate hm
    · next hm => exact htolerate hm

theorem makeDirs_ne_unencodable (s : Store) (p : Path) :
    (s.makeDirs p).1 ≠ .error .unencodable :=
  makeDirsAt_ne_unencodable _ _ s

/-- The place that a path is opened at for writing: that of a file, or a vacant one. -/
def Opens (s : Store) (p : Path) (loc : Loc) : Prop :=
  p.hasNul = false ∧ ((s.place .creation p = .entry loc ∧ ∃ old, s.at? loc = some (.file old)) ∨
    ∃ dir name, s.place .creation p = .vacant dir name ∧ loc = name :: dir)

theorem openFile_ok_iff : s.openFile p = .ok (loc, t) ↔
    s.Opens p loc ∧ t = s.insert loc (.file .empty) := by
  unfold openFile Opens
  cases p.hasNul with
  | true => simp
  | false =>
    cases s.place .creation p with
    | entry l =>
      cases hat : s.at? l with
      | none => simp only [hat]; grind
      | some e => cases e <;> simp only [hat] <;> grind
    | vacant dir name => grind
    | refused why => simp

theorem readBytes_ne_unencodable : s.readBytes p ≠ .error .unencodable := by
  unfold readBytes
  repeat' split
  all_goals nofun

theorem readText_ne_unencodable : s.readText p ≠ .error .unencodable := by
  refine map_ne_error (bind_ne_error readBytes_ne_unencodable fun bytes => ?_) _
  cases String.fromUTF8? bytes <;> nofun

theorem openFile_ne_unencodable : s.openFile p ≠ .error .unencodable := by
  unfold openFile
  repeat' split
  all_goals nofun

/-- What becomes of a text: the file is not opened, or it holds the text from then on, or it is
empty since the text has no form in UTF-8. -/
theorem writeText_cases (s : Store) (p : Path) (content : Content) :
    (∃ f, f ≠ .unencodable ∧ s.writeText p content = (.error f, s)) ∨
      ∃ loc, s.Opens p loc ∧
        ((∃ bytes, content.bytes? = some bytes ∧
            s.writeText p content = (.ok (), s.insert loc (.file bytes))) ∨
          (content.bytes? = none ∧
            s.writeText p content = (.error .unencodable, s.insert loc (.file .empty)))) := by
  unfold writeText
  cases ho : s.openFile p with
  | error f =>
    refine .inl ⟨f, ?_, rfl⟩
    rintro rfl
    exact openFile_ne_unencodable ho
  | ok opened =>
    obtain ⟨loc, t⟩ := opened
    obtain ⟨hopens, rfl⟩ := openFile_ok_iff.mp ho
    refine .inr ⟨loc, hopens, ?_⟩
    cases content.bytes? with
    | some bytes => exact .inl ⟨bytes, rfl, by simp only [insert_insert]⟩
    | none => exact .inr ⟨rfl, rfl⟩

/-- Where one text could be written, so can every other that has a form in UTF-8. -/
theorem writeBelow_ok_of_ok {content other : Content} (h : (s.writeBelow p content).1 = .ok ())
    (hother : other.bytes?.isSome) : (s.writeBelow p other).1 = .ok () := by
  obtain ⟨bytes, hb⟩ := Option.isSome_iff_exists.mp hother
  unfold writeBelow at h ⊢
  split at h
  · cases h
  · unfold writeText at h ⊢
    split at h
    · cases h
    · simp only [hb]

theorem Opens.keeps (h : s.Opens p loc) (content : ByteArray) :
    Keeps s (s.insert loc (.file content)) := by
  obtain ⟨-, ⟨-, old, hold⟩ | ⟨dir, name, hpl, rfl⟩⟩ := h
  · exact .insert_file hold content
  · exact .insert_vacant (at?_of_place_vacant hpl) _

theorem writeText_keeps (s : Store) (p : Path) (content : Content) :
    Keeps s (s.writeText p content).2 := by
  rcases s.writeText_cases p content with
    ⟨f, -, hw⟩ | ⟨loc, hopens, ⟨bytes, -, hw⟩ | ⟨-, hw⟩⟩ <;> rw [hw]
  · exact .refl s
  · exact hopens.keeps bytes
  · exact hopens.keeps .empty

theorem writeBelow_keeps (s : Store) (p : Path) (content : Content) :
    Keeps s (s.writeBelow p content).2 := by
  have hup := makeDirs_keeps s p.parent
  unfold writeBelow
  split
  · next he => rw [he] at hup; exact hup
  · next u he => rw [he] at hup; exact hup.trans (writeText_keeps u p content)

end Store

end Scaffold
