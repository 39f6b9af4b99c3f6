import Scaffold.Proofs.Text.Case

/-!
# Word shapes

`pascal` shapes every word for itself, whatever parts it from the others, so a text that is parted
somewhere is shaped in two halves (`pascal_append_cons`), and separators at the ends or in a row
make no difference (`pascal_eq_nonempty`). `camel` only changes the first character of the first
word. What comes out holds no separators any more (`wordShapes_append`).
-/

namespace Scaffold.Text

variable {a b s cs rest : List Char} {c : Char}

theorem of_mem_words {word : List Char} (h : word ∈ cs.splitOnP isWordSeparator) :
    ∀ c ∈ word, c ∈ cs ∧ isWordSeparator c = false := by
  induction cs generalizing word with
  | nil =>
    rw [List.splitOnP_nil, List.mem_singleton] at h
    subst h
    exact nofun
  | cons c cs ih =>
    have hlater : ∀ word ∈ cs.splitOnP isWordSeparator,
        ∀ d ∈ word, d ∈ c :: cs ∧ isWordSeparator d = false := fun word hword d hd =>
      (ih hword d hd).imp_left (List.mem_cons_of_mem c)
    rw [List.splitOnP_cons_eq_if_modifyHead] at h
    split at h
    · rcases List.mem_cons.mp h with rfl | h
      · exact nofun
      · exact hlater word h
    next hc =>
    -- The character goes in front of the first word of the others, which may be empty.
    obtain ⟨first, others, hsplit⟩ :=
      List.exists_cons_of_ne_nil (List.splitOnP_ne_nil isWordSeparator cs)
    rw [hsplit, List.modifyHead_cons] at h
    rw [hsplit] at hlater
    rcases List.mem_cons.mp h with rfl | h
    · exact List.forall_mem_cons.mpr
        ⟨⟨List.mem_cons_self, by simpa using hc⟩, hlater first List.mem_cons_self⟩
    · exact hlater word (List.mem_cons_of_mem _ h)

theorem titleWord_avoids (h : ∀ c ∈ cs, isWordSeparator c = false) :
    ∀ d ∈ titleWord cs, isWordSeparator d = false := by
  cases cs with
  | nil => exact nofun
  | cons c cs =>
    obtain ⟨hc, hcs⟩ := List.forall_mem_cons.mp h
    intro d hd
    rcases List.mem_append.mp hd with hd | hd
    · exact upperChar_avoids hc d hd
    · exact lower_avoids hcs d hd

/-! ## Every word in title case -/

theorem pascal_nil : pascal [] = [] := by
  rw [pascal, List.splitOnP_nil]
  rfl

theorem pascal_append_cons (a b : List Char) (h : isWordSeparator c = true) :
    pascal (a ++ c :: b) = pascal a ++ pascal b := by
  simp only [pascal, List.splitOnP_append_cons a b h, List.flatMap_append]

theorem pascal_separators_append (h : ∀ c ∈ s, isWordSeparator c = true) (b : List Char) :
    pascal (s ++ b) = pascal b := by
  induction s with
  | nil => rfl
  | cons c s ih =>
    obtain ⟨hc, hs⟩ := List.forall_mem_cons.mp h
    have hsplit := pascal_append_cons [] (s ++ b) hc
    rw [pascal_nil] at hsplit
    exact hsplit.trans (ih hs)

/-- A run of separators parts a text in two. -/
theorem pascal_append (hs : s ≠ []) (h : ∀ c ∈ s, isWordSeparator c = true) (a b : List Char) :
    pascal (a ++ s ++ b) = pascal a ++ pascal b := by
  cases s with
  | nil => exact absurd rfl hs
  | cons c s =>
    obtain ⟨hc, hs⟩ := List.forall_mem_cons.mp h
    rw [List.append_assoc, List.cons_append, pascal_append_cons a (s ++ b) hc,
      pascal_separators_append hs]

/-- Where separators stand in a row the words between them are empty, and these give nothing. -/
theorem pascal_eq_nonempty (cs : List Char) :
    pascal cs = ((cs.splitOnP isWordSeparator).filter (!·.isEmpty)).flatMap titleWord := by
  rw [pascal]
  induction cs.splitOnP isWordSeparator with
  | nil => rfl
  | cons word words ih =>
    rw [List.flatMap_cons, ih]
    cases word with
    | nil => rfl
    | cons c word => rfl

theorem pascal_avoids (cs : List Char) : ∀ c ∈ pascal cs, isWordSeparator c = false := by
  intro c hc
  obtain ⟨word, hword, hin⟩ := List.mem_flatMap.mp hc
  exact titleWord_avoids (fun d hd => (of_mem_words hword d hd).2) c hin

/-- A character of a word comes first in upper case. -/
theorem pascal_cons (h : isWordSeparator c = false) (cs : List Char) :
    ∃ rest, pascal (c :: cs) = upperChar c ++ rest := by
  obtain ⟨first, others, hsplit⟩ :=
    List.exists_cons_of_ne_nil (List.splitOnP_ne_nil isWordSeparator cs)
  refine ⟨lower first ++ others.flatMap titleWord, ?_⟩
  rw [pascal, List.splitOnP_cons_eq_if_modifyHead, hsplit]
  simp [h, titleWord]

theorem exists_first_word (h : ∃ c ∈ cs, isWordSeparator c = false) :
    ∃ s c rest, cs = s ++ c :: rest ∧ (∀ d ∈ s, isWordSeparator d = true) ∧
      isWordSeparator c = false := by
  induction cs with
  | nil => simp at h
  | cons c cs ih =>
    by_cases hc : isWordSeparator c = true
    · have hlater : ∃ d ∈ cs, isWordSeparator d = false := by
        obtain ⟨d, hd, hword⟩ := h
        rcases List.mem_cons.mp hd with rfl | hd
        · rw [hc] at hword; cases hword
        · exact ⟨d, hd, hword⟩
      obtain ⟨s, d, rest, rfl, hs, hd⟩ := ih hlater
      exact ⟨c :: s, d, rest, rfl, List.forall_mem_cons.mpr ⟨hc, hs⟩, hd⟩
    · exact ⟨[], c, cs, rfl, nofun, by simpa using hc⟩

theorem pascal_ne_nil (h : ∃ c ∈ cs, isWordSeparator c = false) : pascal cs ≠ [] := by
  obtain ⟨s, c, rest, rfl, hs, hc⟩ := exists_first_word h
  obtain ⟨later, hlater⟩ := pascal_cons hc rest
  rw [pascal_separators_append hs, hlater]
  exact List.append_ne_nil_of_left_ne_nil (upperChar_ne_nil c) later

/-- What follows the first character goes through `camel` as it is. -/
theorem camel_of_pascal (h : pascal cs = pascal a ++ rest) (ha : pascal a ≠ []) :
    camel cs = camel a ++ rest := by
  obtain ⟨c, later, hfirst⟩ := List.exists_cons_of_ne_nil ha
  rw [camel, camel, h, hfirst]
  simp

/-- **Words are shaped one by one.** A run of separators parts a text in two halves that `pascal`
shapes for themselves, and `camel` too if there is a word in the first; no separator is left. -/
theorem wordShapes_append (a b s : List Char) :
    (s ≠ [] → (∀ c ∈ s, isWordSeparator c = true) →
      pascal (a ++ s ++ b) = pascal a ++ pascal b ∧
        ((∃ c ∈ a, isWordSeparator c = false) → camel (a ++ s ++ b) = camel a ++ pascal b)) ∧
    ∀ c ∈ pascal a, c ≠ '-' ∧ c ≠ '_' ∧ isBlank c = false := by
  refine ⟨fun hs hsep => ?_, fun c hc => ?_⟩
  · have happend := pascal_append hs hsep a b
    exact ⟨happend, fun hword => camel_of_pascal happend (pascal_ne_nil hword)⟩
  · simpa [isWordSeparator, and_assoc] using pascal_avoids a c hc

theorem wordShapes_append_of_runs :
    pascal "über ὈΔΥΣΣΕΎΣ-_ \u2003ß-".toList = "ÜberὈδυσσεύςSS".toList ∧
      pascal "über ὈΔΥΣΣΕΎΣ".toList = "ÜberὈδυσσεύς".toList ∧
      pascal ("über ὈΔΥΣΣΕΎΣ".toList ++ "-_ \u2003".toList ++ "ß-".toList) =
        pascal "über ὈΔΥΣΣΕΎΣ".toList ++ pascal "ß-".toList ∧
      camel ("über ὈΔΥΣΣΕΎΣ".toList ++ "-_ \u2003".toList ++ "ß-".toList) =
        camel "über ὈΔΥΣΣΕΎΣ".toList ++ pascal "ß-".toList := by
  have hseparators : "-_ \u2003".toList.all isWordSeparator = true := by decide +kernel
  have hrun := (wordShapes_append "über ὈΔΥΣΣΕΎΣ".toList "ß-".toList "-_ \u2003".toList).1
    (by decide) (List.all_eq_true.mp hseparators)
  exact ⟨by decide +kernel, by decide +kernel, hrun.1,
    hrun.2 ⟨'ü', by decide +kernel, by decide +kernel⟩⟩

end Scaffold.Text
