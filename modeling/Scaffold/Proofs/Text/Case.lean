import Scaffold.Text.Case

/-!
# What case mapping leaves alone

The case tables move no letter onto a character that parts words (`upperChar_avoids`,
`lower_avoids`), and no character is lost (`upperChar_ne_nil`). On the small letters and digits of
ASCII they do what one expects (`upperChar_ascii`, `lower_ascii`).
-/

namespace Scaffold.Text

variable {c : Char} {cs : List Char} {n : Nat} {runs : List CaseRun}
  {expansions : List (Nat × List Nat)}

def isSeparatorCode (n : Nat) : Bool := n = 0x2d || n = 0x5f || blankRanges.contains n

def separatorRanges : CodeRanges := (0x2d, 0x2d) :: (0x5f, 0x5f) :: blankRanges

theorem isWordSeparator_eq (c : Char) : isWordSeparator c = isSeparatorCode c.toNat := by
  have hcode : ∀ d : Char, decide (c = d) = decide (c.toNat = d.toNat) := fun d =>
    decide_eq_decide.mpr ⟨congrArg Char.toNat, Char.toNat_inj.mp⟩
  unfold isWordSeparator isSeparatorCode isBlank
  rw [hcode '-', hcode '_']
  rfl

theorem mem_of_contains {ranges : CodeRanges} (h : ranges.contains n = true) :
    ∃ range ∈ ranges, range.1 ≤ n ∧ n ≤ range.2 := by
  induction ranges with
  | nil => cases h
  | cons range ranges ih =>
    obtain ⟨lo, hi⟩ := range
    unfold CodeRanges.contains at h
    split at h
    · cases h
    next hlo =>
    split at h
    · next hhi => exact ⟨_, List.mem_cons_self, by omega, hhi⟩
    · obtain ⟨range, hmem, hin⟩ := ih h
      exact ⟨range, List.mem_cons_of_mem _ hmem, hin⟩

theorem mem_separatorRanges (h : isSeparatorCode n = true) :
    ∃ range ∈ separatorRanges, range.1 ≤ n ∧ n ≤ range.2 := by
  simp only [isSeparatorCode, Bool.or_eq_true, decide_eq_true_eq] at h
  rcases h with (rfl | rfl) | h
  · exact ⟨_, List.mem_cons_self, by omega, by omega⟩
  · exact ⟨_, List.mem_cons_of_mem _ List.mem_cons_self, by omega, by omega⟩
  · obtain ⟨range, hmem, hin⟩ := mem_of_contains h
    exact ⟨range, List.mem_cons_of_mem _ (List.mem_cons_of_mem _ hmem), hin⟩

/-- A code that is no character's gives the character 0, which parts no words. -/
theorem isWordSeparator_ofNat (h : isSeparatorCode n = false) :
    isWordSeparator (Char.ofNat n) = false := by
  by_cases hvalid : n.isValidChar
  · rw [Char.ofNat, dif_pos hvalid, isWordSeparator_eq]
    exact h
  · rw [Char.ofNat, dif_neg hvalid]
    decide

/-- A code is moved by the offset of a run that it lies in, if it is moved at all. -/
theorem caseOffset_cases (n : Nat) (runs : List CaseRun) : caseOffset n runs = 0 ∨
    ∃ r ∈ runs, r.first ≤ n ∧ n ≤ r.last ∧ caseOffset n runs = r.offset := by
  induction runs with
  | nil => exact .inl rfl
  | cons r rest ih =>
    unfold caseOffset
    split
    · exact .inl rfl
    next hfirst =>
    split
    · next hin => exact .inr ⟨r, List.mem_cons_self, by omega, hin.1, rfl⟩
    · exact ih.imp_right fun ⟨s, hmem, hs⟩ => ⟨s, List.mem_cons_of_mem _ hmem, hs⟩

/-- No run moves a code into one of the ranges. -/
def runsAvoid (runs : List CaseRun) (ranges : CodeRanges) : Bool :=
  runs.all fun r => ranges.all fun range =>
    (r.last : Int) + r.offset < range.1 || (range.2 : Int) < r.first + r.offset

/-- No expansion has a part that parts words, and none is empty. -/
def expansionsAvoid (expansions : List (Nat × List Nat)) : Bool :=
  expansions.all fun e => !e.2.isEmpty && e.2.all fun n => !isSeparatorCode n

theorem tables_avoid : runsAvoid upperRuns separatorRanges = true ∧
    runsAvoid lowerRuns separatorRanges = true ∧
    expansionsAvoid upperExpansions = true ∧ expansionsAvoid lowerExpansions = true := by
  decide +kernel

theorem isSeparatorCode_moved (hr : runsAvoid runs separatorRanges = true)
    (h : isSeparatorCode n = false) :
    isSeparatorCode ((n : Int) + caseOffset n runs).toNat = false := by
  rcases caseOffset_cases n runs with hzero | ⟨r, hmem, hfirst, hlast, hoffset⟩
  · rw [hzero]
    simpa using h
  · cases hsep : isSeparatorCode ((n : Int) + caseOffset n runs).toNat with
    | false => rfl
    | true =>
      obtain ⟨range, hrange, hlo, hhi⟩ := mem_separatorRanges hsep
      -- The run lands below the range or above it as a whole. The natural number is the moved code
      -- itself, not 0 for a negative one, because no range goes down to 0.
      have hall := List.all_eq_true.mp (List.all_eq_true.mp hr r hmem) range hrange
      have hlow : ∀ range ∈ separatorRanges, 0 < range.1 := by decide
      have hpositive := hlow range hrange
      simp only [Bool.or_eq_true, decide_eq_true_eq] at hall
      rw [hoffset] at hlo hhi
      omega

/-! ## Mapped characters -/

theorem lookup_mem {codes : List Nat} (h : expansions.lookup n = some codes) :
    (n, codes) ∈ expansions := by
  obtain ⟨before, after, he, -⟩ := List.lookup_eq_some_iff.mp h
  rw [he]
  simp

theorem mapCase_avoids (he : expansionsAvoid expansions = true)
    (hr : runsAvoid runs separatorRanges = true) (h : isWordSeparator c = false) :
    ∀ d ∈ mapCase expansions runs c, isWordSeparator d = false := by
  intro d hd
  unfold mapCase at hd
  split at hd
  · next codes hlook =>
    obtain ⟨m, hm, rfl⟩ := List.mem_map.mp hd
    have hentry := List.all_eq_true.mp he _ (lookup_mem hlook)
    rw [Bool.and_eq_true] at hentry
    exact isWordSeparator_ofNat (by simpa using List.all_eq_true.mp hentry.2 m hm)
  · rw [List.mem_singleton] at hd
    subst hd
    rw [isWordSeparator_eq] at h
    exact isWordSeparator_ofNat (isSeparatorCode_moved hr h)

theorem mapCase_ne_nil (he : expansionsAvoid expansions = true) :
    mapCase expansions runs c ≠ [] := by
  unfold mapCase
  split
  · next codes hlook =>
    have hentry := List.all_eq_true.mp he _ (lookup_mem hlook)
    rw [Bool.and_eq_true] at hentry
    simpa using hentry.1
  · exact List.cons_ne_nil _ _

theorem upperChar_avoids (h : isWordSeparator c = false) :
    ∀ d ∈ upperChar c, isWordSeparator d = false :=
  mapCase_avoids tables_avoid.2.2.1 tables_avoid.1 h

theorem upperChar_ne_nil (c : Char) : upperChar c ≠ [] := mapCase_ne_nil tables_avoid.2.2.1

theorem lowerFrom_avoids (h : ∀ c ∈ cs, isWordSeparator c = false) (behind : Bool) :
    ∀ d ∈ lowerFrom behind cs, isWordSeparator d = false := by
  induction cs generalizing behind with
  | nil => exact nofun
  | cons c cs ih =>
    obtain ⟨hc, hcs⟩ := List.forall_mem_cons.mp h
    intro d hd
    rw [lowerFrom, List.mem_append] at hd
    rcases hd with hd | hd
    · split at hd
      · -- A sigma becomes one of the two small ones.
        split at hd <;> (rw [List.mem_singleton] at hd; subst hd; decide +kernel)
      · exact mapCase_avoids tables_avoid.2.2.2 tables_avoid.2.1 hc d hd
    · exact ih hcs _ d hd

theorem lower_avoids (h : ∀ c ∈ cs, isWordSeparator c = false) :
    ∀ d ∈ lower cs, isWordSeparator d = false :=
  lowerFrom_avoids h false

theorem case_ascii : ∀ n < 128, ((Char.ofNat n).isLower || (Char.ofNat n).isDigit) = true →
    upperChar (Char.ofNat n) = [(Char.ofNat n).toUpper] ∧
      lowerChar (Char.ofNat n) = [Char.ofNat n] := by
  decide +kernel

theorem toNat_lt_of_ascii (h : (c.isLower || c.isDigit) = true) : c.toNat < 128 := by
  have hlower : c.isLower = (decide (97 ≤ c.toNat) && decide (c.toNat ≤ 122)) := rfl
  have hdigit : c.isDigit = (decide (48 ≤ c.toNat) && decide (c.toNat ≤ 57)) := rfl
  simp only [hlower, hdigit, Bool.or_eq_true, Bool.and_eq_true, decide_eq_true_eq] at h
  omega

theorem upperChar_ascii (h : (c.isLower || c.isDigit) = true) : upperChar c = [c.toUpper] := by
  have hc := case_ascii c.toNat (toNat_lt_of_ascii h)
  rw [Char.ofNat_toNat] at hc
  exact (hc h).1

theorem lowerFrom_ascii (h : ∀ c ∈ cs, (c.isLower || c.isDigit) = true) (behind : Bool) :
    lowerFrom behind cs = cs := by
  induction cs generalizing behind with
  | nil => rfl
  | cons c cs ih =>
    obtain ⟨hc, hcs⟩ := List.forall_mem_cons.mp h
    have hlower := case_ascii c.toNat (toNat_lt_of_ascii hc)
    rw [Char.ofNat_toNat] at hlower
    -- Only the capital sigma looks at what stands around it.
    have hsigma : c ≠ 'Σ' := by
      rintro rfl
      revert hc
      decide
    rw [lowerFrom, if_neg hsigma, (hlower hc).2, ih hcs]
    rfl

theorem lower_ascii (h : ∀ c ∈ cs, (c.isLower || c.isDigit) = true) : lower cs = cs :=
  lowerFrom_ascii h false

end Scaffold.Text
