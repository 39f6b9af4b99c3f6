import Scaffold.Proofs.Store.Presence

/-!
# Reading what was written

A text is read from the file that its path leads to (`readText_ok_iff`). In any store, with links or
without, a path that could be written to leads to a file with just that content afterwards
(`writeBelow_leads`), so a text is read back from where it was written, up to its line ends
(`readText_writeBelow`).
-/

namespace Scaffold.Store

variable {s t : Store} {p : Path} {cs : List Char} {content : ByteArray} {f : Fault}

/-- The path leads to a file with this content. -/
def LeadsTo (s : Store) (p : Path) (content : ByteArray) : Prop :=
  p.hasNul = false ∧ ∃ loc, s.place .target p = .entry loc ∧ s.at? loc = some (.file content)

theorem isFile?_true_iff : s.isFile? p = .ok true ↔ ∃ content, s.LeadsTo p content := by
  unfold isFile? look probe LeadsTo
  cases p.hasNul with
  | true => simp [Except.map]
  | false =>
    cases s.place .target p with
    | vacant dir name => simp [Except.map]
    | refused why => cases hw : why.meansAbsent <;> simp [Except.map, hw]
    | entry loc =>
      cases hat : s.at? loc with
      | none => simp [Except.map, hat]
      | some e => cases e <;> simp [Except.map, hat, Entry.isFile]

/-- A text is read from the file that its path leads to. -/
theorem readText_ok_iff : s.readText p = .ok cs ↔
    p.hasNul = false ∧ ∃ loc content text, s.place .target p = .entry loc ∧
      s.at? loc = some (.file content) ∧ String.fromUTF8? content = some text ∧
      Text.unifyLineEnds text.toList = cs := by
  unfold readText readChars readBytes
  cases p.hasNul with
  | true => simp [bind, Except.bind, Except.map]
  | false =>
    cases s.place .target p with
    | vacant dir name => simp [bind, Except.bind, Except.map]
    | refused why => simp [bind, Except.bind, Except.map]
    | entry loc =>
      cases hat : s.at? loc with
      | none => simp [hat, bind, Except.bind, Except.map]
      | some e =>
        cases e with
        | directory => simp [hat, bind, Except.bind, Except.map]
        | link target => simp [hat, bind, Except.bind, Except.map]
        | file content =>
          cases hutf : String.fromUTF8? content with
          | none => simp [hat, hutf, bind, Except.bind, Except.map]
          | some text => simp [hat, hutf, bind, Except.bind, Except.map]

theorem readBytes_error (h : s.readBytes p = .error f) :
    f = .nulInPath ∨ ∃ why, f = .refused why p.text := by
  unfold readBytes at h
  repeat' split at h
  all_goals cases h
  · exact .inl rfl
  all_goals exact .inr ⟨_, rfl⟩

/-- What keeps a text from being read lies in the path, in the disk or in the bytes of the file. -/
theorem readText_error (h : s.readText p = .error f) :
    f = .nulInPath ∨ f = .notText ∨ ∃ why, f = .refused why p.text := by
  unfold readText readChars at h
  cases hb : s.readBytes p with
  | error g =>
    rw [hb] at h
    cases h
    exact (readBytes_error hb).imp_right .inr
  | ok bytes =>
    rw [hb] at h
    cases hu : String.fromUTF8? bytes with
    | none =>
      simp only [bind, Except.bind, hu, Except.map] at h
      cases h
      exact .inr (.inl rfl)
    | some text =>
      simp only [bind, Except.bind, hu, Except.map] at h
      cases h

theorem isFile?_of_readText (h : s.readText p = .ok cs) : s.isFile? p = .ok true := by
  obtain ⟨hnul, loc, content, text, hpl, hat, -⟩ := readText_ok_iff.mp h
  exact isFile?_true_iff.mpr ⟨content, hnul, loc, hpl, hat⟩

theorem LeadsTo.readText {text : String} (h : s.LeadsTo p content)
    (ht : String.fromUTF8? content = some text) :
    s.readText p = .ok (Text.unifyLineEnds text.toList) := by
  obtain ⟨hnul, loc, hpl, hat⟩ := h
  exact readText_ok_iff.mpr ⟨hnul, loc, content, text, hpl, hat, ht, rfl⟩

theorem LeadsTo.readText_toUTF8 {text : String} (h : s.LeadsTo p text.toUTF8) :
    s.readText p = .ok (Text.unifyLineEnds text.toList) :=
  h.readText (dif_pos text.isValidUTF8)

theorem Opens.leads {loc : Loc} (h : s.Opens p loc) (bytes : ByteArray) :
    (s.insert loc (.file bytes)).LeadsTo p bytes := by
  have hkeeps := h.keeps bytes
  obtain ⟨hnul, ⟨hpl, old, hold⟩ | ⟨dir, name, hpl, rfl⟩⟩ := h
  · have hloc : loc ≠ [] := by rintro rfl; rw [at?_root] at hold; cases hold
    exact ⟨hnul, loc, hkeeps.place_entry (place_creation hpl), at?_insert_self hloc⟩
  · have hself : (s.insert (name :: dir) (.file bytes)).at? (name :: dir) =
        some (.file bytes) := at?_insert_self (by simp)
    exact ⟨hnul, name :: dir, hkeeps.place_filled hself (.inr ⟨rfl, rfl⟩) hpl, hself⟩

theorem writeBelow_leads {text : Content} (h : (s.writeBelow p text).1 = .ok ()) :
    ∃ bytes, text.bytes? = some bytes ∧ (s.writeBelow p text).2.LeadsTo p bytes := by
  unfold writeBelow at h ⊢
  split at h
  · cases h
  · next t he =>
    rcases t.writeText_cases p text with
      ⟨f, -, hw⟩ | ⟨loc, hopens, ⟨bytes, hb, hw⟩ | ⟨-, hw⟩⟩ <;> rw [hw] at h ⊢
    · cases h
    · exact ⟨bytes, hb, hopens.leads bytes⟩
    · cases h

theorem readText_writeBelow {text : String} (h : (s.writeBelow p text).1 = .ok ()) :
    (s.writeBelow p text).2.readText p = .ok (Text.unifyLineEnds text.toList) := by
  obtain ⟨bytes, hb, hleads⟩ := writeBelow_leads h
  rw [Content.bytes?_ofString, Option.some.injEq] at hb
  subst hb
  exact hleads.readText_toUTF8

end Scaffold.Store
