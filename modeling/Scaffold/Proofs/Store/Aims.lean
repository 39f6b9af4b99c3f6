import Scaffold.Store.Resolve

/-!
# Aims

How walks of one path with different aims compare. A path leads through all links where it leads by
itself, unless a link stands there (`place_itself_cases`); where a file can be opened, it leads
(`place_creation`).
-/

namespace Scaffold.Store

variable {s : Store} {p : Path} {aim : Aim} {here loc dir : Loc} {target : String}
  {names rest : List String} {links : Nat} {stretch : Stretch} {why : Refusal}

/-- The link that a stretch comes to has to be followed whatever the aim is. -/
theorem advance_atLink (h : s.advance aim here names = .atLink dir target rest) :
    s.advance .target here names = .atLink dir target rest := by
  induction names generalizing here with
  | nil => cases h
  | cons m more ih =>
    unfold advance at h ⊢
    repeat' split at h
    all_goals simp_all

theorem advance_itself_cases (h : s.advance .itself here names = stretch) :
    s.advance .target here names = stretch ∨
      ∃ loc target, stretch = .ended (.entry loc) ∧ s.at? loc = some (.link target) := by
  induction names generalizing here with
  | nil => exact .inl h
  | cons m more ih =>
    unfold advance at h ⊢
    split at h
    · next hdir => rw [if_pos hdir]; exact .inl h
    next hdir =>
    rw [if_neg hdir]
    split at h
    · next hdot => rw [if_pos hdot]; exact ih h
    next hdot =>
    rw [if_neg hdot]
    split at h
    · next hup => rw [if_pos hup]; exact ih h
    next hup =>
    rw [if_neg hup, if_neg (by simp)]
    rw [if_neg (by simp)] at h
    split at h
    · next hlong => rw [if_pos hlong]; exact .inl h
    next hlong =>
    rw [if_neg hlong]
    cases hat : s.at? (m :: here) with
    | none => rw [hat] at h; exact .inl h
    | some e =>
      rw [hat] at h
      cases e with
      | file content => exact ih h
      | directory => exact ih h
      | link target =>
        dsimp only at h ⊢
        split at h
        · exact .inr ⟨m :: here, target, h.symm, hat⟩
        · rw [if_neg (by simp)]
          exact .inl h

theorem walk_itself_cases : s.walk .target here names links = s.walk .itself here names links ∨
    ∃ loc target, s.walk .itself here names links = .entry loc ∧
      s.at? loc = some (.link target) := by
  induction links generalizing here names with
  | zero =>
    unfold walk
    cases ha : s.advance .itself here names with
    | ended place =>
      rcases advance_itself_cases ha with he | ⟨loc, target, he, hat⟩
      · rw [he]; exact .inl rfl
      · cases he; exact .inr ⟨loc, target, rfl, hat⟩
    | atLink dir target rest => rw [advance_atLink ha]; exact .inl rfl
  | succ links ih =>
    unfold walk
    cases ha : s.advance .itself here names with
    | ended place =>
      rcases advance_itself_cases ha with he | ⟨loc, target, he, hat⟩
      · rw [he]; exact .inl rfl
      · cases he; exact .inr ⟨loc, target, rfl, hat⟩
    | atLink dir target rest => rw [advance_atLink ha]; exact ih

/-- A path leads through all links where it leads by itself, unless a link stands there. -/
theorem place_itself_cases : s.place .target p = s.place .itself p ∨
    ∃ loc target, s.place .itself p = .entry loc ∧ s.at? loc = some (.link target) := by
  unfold place
  split
  · exact .inl rfl
  · exact walk_itself_cases

/-- A path that leads to something leads to its own last link, if it has one. -/
theorem place_itself (h : s.place .target p = .entry loc) :
    ∃ loc, s.place .itself p = .entry loc := by
  rcases place_itself_cases (s := s) (p := p) with he | ⟨l, -, hl, -⟩
  · exact ⟨loc, he.symm.trans h⟩
  · exact ⟨l, hl⟩

/-- A walk that is refused before its last link is refused behind it as well. -/
theorem place_itself_refused (h : s.place .itself p = .refused why) :
    s.place .target p = .refused why := by
  rcases place_itself_cases (s := s) (p := p) with he | ⟨l, -, hl, -⟩
  · exact he.trans h
  · rw [h] at hl; cases hl

/-! ## A file to be opened -/

theorem advance_creation (h : s.advance .creation here names = .ended (.entry loc)) :
    s.advance .target here names = .ended (.entry loc) := by
  induction names generalizing here with
  | nil => exact h
  | cons m more ih =>
    unfold advance at h ⊢
    repeat' split at h
    all_goals simp_all

theorem walk_creation (h : s.walk .creation here names links = .entry loc) :
    s.walk .target here names links = .entry loc := by
  induction links generalizing here names with
  | zero =>
    unfold walk at h ⊢
    split at h
    · next hpl => subst h; rw [advance_creation hpl]
    · cases h
  | succ links ih =>
    unfold walk at h ⊢
    split at h
    · next hpl => subst h; rw [advance_creation hpl]
    · next hl => rw [advance_atLink hl]; exact ih h

theorem place_creation (h : s.place .creation p = .entry loc) :
    s.place .target p = .entry loc := by
  unfold place at h ⊢
  split at h
  · cases h
  · next hlong => rw [if_neg hlong]; exact walk_creation h

end Scaffold.Store
