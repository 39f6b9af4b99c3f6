import Mathlib.Data.List.TakeDrop
import Scaffold.Run

/-!
# Notices of runs

Whether the notice of a run that went through can be shown depends on the path in it only, not on
the number of paths (`check_notice_congr`), and it can be shown if the path has neither an opening
bracket nor a backslash (`check_notice_of_plain`). For the notice of a failed run, words of the
cause without brackets make no difference (`check_notice_of_mild`).
-/

namespace Scaffold

open Markup

namespace Markup.Tag

variable {cs rest body front words : List Char} {n m escapes : Nat}

theorem body?_length (h : body? cs = some (body, rest)) : rest.length < cs.length := by
  cases cs with
  | nil => cases h
  | cons c cs =>
    rw [body?] at h
    split at h
    · cases h
    · split at h
      · next b r hspan =>
        cases h
        rw [List.span_eq_takeWhile_dropWhile] at hspan
        have hlen := (List.dropWhile_sublist (fun d => d ≠ '[' && d ≠ ']') (l := cs)).length_le
        rw [(Prod.mk.inj hspan).2] at hlen
        simp only [List.length_cons] at hlen ⊢
        omega
      · cases h

theorem listFrom_fuel (hn : cs.length ≤ n) (hm : cs.length ≤ m) :
    listFrom n escapes cs = listFrom m escapes cs := by
  induction n generalizing m escapes cs with
  | zero =>
    obtain rfl : cs = [] := List.length_eq_zero_iff.mp (by omega)
    cases m <;> rfl
  | succ n ih =>
    cases cs with
    | nil => cases m <;> rfl
    | cons c cs =>
      cases m with
      | zero => simp at hm
      | succ m =>
        simp only [List.length_cons] at hn hm
        unfold listFrom
        split
        · exact ih (by omega) (by omega)
        split
        · cases hb : body? cs with
          | none => exact ih (by omega) (by omega)
          | some found =>
            have hlen := body?_length hb
            simp only [@ih found.2 m 0 (by omega) (by omega)]
        · exact ih (by omega) (by omega)

/-- A character that neither opens a tag nor escapes one. -/
def IsPlainChar (c : Char) : Prop := c ≠ '\\' ∧ c ≠ '['

instance (c : Char) : Decidable (IsPlainChar c) := by unfold IsPlainChar; infer_instance

/-- A check that goes through the list, not through all characters. -/
theorem isPlainChar_of_all (h : cs.all fun c => decide (IsPlainChar c)) :
    ∀ c ∈ cs, IsPlainChar c := by
  simpa using h

theorem list_cons_of_plain {c : Char} (h : IsPlainChar c) : list (c :: cs) = list cs := by
  rw [list, List.length_cons, listFrom, if_neg h.1, if_neg h.2, list]

theorem list_append_of_plain (h : ∀ c ∈ front, IsPlainChar c) : list (front ++ cs) = list cs := by
  induction front with
  | nil => rfl
  | cons c front ih =>
    rw [List.cons_append, list_cons_of_plain (h c List.mem_cons_self),
      ih fun d hd => h d (List.mem_cons_of_mem _ hd)]

theorem list_cons_tag (h : body? cs = some (body, rest)) :
    list ('[' :: cs) = ofBody body :: list rest := by
  have hlen := body?_length h
  have hrest : listFrom (cs.length + 1) 0 rest = list rest :=
    listFrom_fuel (by omega) (by simp)
  rw [list, List.length_cons, listFrom, if_neg (by decide), if_pos rfl, h]
  simp only [hrest]
  rfl

/-! ## Words that make no difference -/

/-- A text that is no part of a tag and takes none its meaning. -/
structure IsMild (words : List Char) : Prop where
  unbracketed : ∀ c ∈ words, c ≠ '[' ∧ c ≠ ']'
  unescaping : words.getLast? ≠ some '\\'

/-- No tag reaches over a mild text from before it: the next bracket opens one. -/
theorem body?_append (hwords : ∀ c ∈ words, c ≠ '[' ∧ c ≠ ']') :
    body? (front ++ ' ' :: (words ++ '[' :: rest)) =
      (body? front).map fun found => (found.1, found.2 ++ ' ' :: (words ++ '[' :: rest)) := by
  cases front with
  | nil => rfl
  | cons c cs =>
    have hinside : ∀ d ∈ ' ' :: words, (d ≠ '[' && d ≠ ']') = true := by
      intro d hd
      rcases List.mem_cons.mp hd with rfl | hd
      · decide
      · simpa using hwords d hd
    simp only [List.cons_append, body?, List.span_eq_takeWhile_dropWhile]
    split
    · rfl
    have hparts : (cs.takeWhile fun d => d ≠ '[' && d ≠ ']') ++
        (cs.dropWhile fun d => d ≠ '[' && d ≠ ']') = cs := List.takeWhile_append_dropWhile
    rw [List.takeWhile_append, List.dropWhile_append]
    cases hdrop : cs.dropWhile fun d => d ≠ '[' && d ≠ ']' with
    | nil =>
      rw [← List.cons_append, List.dropWhile_append_of_pos hinside]
      rfl
    | cons d more =>
      rw [hdrop] at hparts
      have hlen : (cs.takeWhile fun d => d ≠ '[' && d ≠ ']').length ≠ cs.length := by
        intro h
        have hsum := congrArg List.length hparts
        simp only [List.length_append, List.length_cons, h] at hsum
        omega
      simp only [hlen, if_false, List.isEmpty_cons, Bool.false_eq_true, List.cons_append]
      split <;> simp_all

theorem listFrom_words (hwords : ∀ c ∈ words, c ≠ '[' ∧ c ≠ ']')
    (hlast : words.getLast? ≠ some '\\') (he : words = [] → escapes = 0)
    (hn : (words ++ '[' :: rest).length ≤ n) :
    listFrom n escapes (words ++ '[' :: rest) = list ('[' :: rest) := by
  induction words generalizing n escapes with
  | nil =>
    rw [he rfl]
    exact listFrom_fuel hn (Nat.le_succ _)
  | cons c words ih =>
    obtain ⟨hc, hmore⟩ := List.forall_mem_cons.mp hwords
    cases n with
    | zero => simp at hn
    | succ n =>
      simp only [List.cons_append, List.length_cons] at hn
      have hlast' : words.getLast? ≠ some '\\' := by
        cases words with
        | nil => nofun
        | cons d words => rwa [List.getLast?_cons_cons] at hlast
      rw [List.cons_append, listFrom, if_neg hc.1]
      split
      · next hslash =>
        refine ih hmore hlast' ?_ (by omega)
        rintro rfl
        exact absurd (by rw [hslash]; rfl) hlast
      · exact ih hmore hlast' (fun _ => rfl) (by omega)

/-- What stands before a mild text decides for itself which tags it holds. -/
theorem listFrom_append (hmild : IsMild words)
    (hn : (front ++ ' ' :: (words ++ '[' :: rest)).length ≤ n) :
    listFrom n escapes (front ++ ' ' :: (words ++ '[' :: rest)) =
      listFrom n escapes (front ++ ' ' :: '[' :: rest) := by
  have hmissing : IsMild [] := ⟨nofun, nofun⟩
  induction n generalizing front escapes with
  | zero => simp at hn
  | succ n ih =>
    cases front with
    | nil =>
      simp only [List.nil_append, List.length_cons] at hn
      have hrest : listFrom n 0 (words ++ '[' :: rest) = listFrom n 0 ([] ++ '[' :: rest) := by
        rw [listFrom_words hmild.unbracketed hmild.unescaping (fun _ => rfl) (by omega),
          listFrom_words hmissing.unbracketed hmissing.unescaping (fun _ => rfl)
            (by simp at hn ⊢; omega)]
      exact hrest
    | cons c front =>
      simp only [List.cons_append, List.length_cons] at hn
      have hbody := @body?_append rest front words hmild.unbracketed
      have hmissed : body? (front ++ ' ' :: '[' :: rest) =
          (body? front).map fun found => (found.1, found.2 ++ ' ' :: '[' :: rest) :=
        @body?_append rest front [] nofun
      rw [List.cons_append, List.cons_append, listFrom, listFrom]
      split
      · exact ih (by omega)
      split
      · rw [hbody, hmissed]
        cases hfront : body? front with
        | none => exact ih (by omega)
        | some found =>
          have hlen := body?_length hfront
          simp only [List.length_append, List.length_cons] at hn
          have hmore : listFrom n 0 (found.2 ++ ' ' :: (words ++ '[' :: rest)) =
              listFrom n 0 (found.2 ++ ' ' :: '[' :: rest) :=
            ih (by simp only [List.length_append, List.length_cons]; omega)
          simp only [Option.map_some, hmore]
      · exact ih (by omega)

/-- A mild text behind a gap, before a tag, makes no difference. -/
theorem list_of_mild (hmild : IsMild words) :
    list (front ++ ' ' :: (words ++ '[' :: rest)) = list (front ++ ' ' :: '[' :: rest) := by
  rw [list, listFrom_append hmild (Nat.le_succ _)]
  exact listFrom_fuel (by simp; omega) (Nat.le_succ _)

end Markup.Tag

open Markup.Tag

variable {r r' : Record} {root : Path}

theorem isPlainChar_of_isDigit {c : Char} (h : c.isDigit) : IsPlainChar c := by
  refine ⟨?_, ?_⟩ <;> rintro rfl <;> exact absurd h (by decide)

theorem isPlainChar_number {c : Char} {n : Nat} (h : c ∈ (toString n).toList) : IsPlainChar c := by
  rw [Nat.toString_eq_ofList_toDigits, String.toList_ofList] at h
  exact isPlainChar_of_isDigit (Nat.isDigit_of_mem_toDigits (by decide) (by decide) h)

def green : List Char := ['g', 'r', 'e', 'e', 'n']

theorem body?_green (rest : List Char) : body? (green ++ ']' :: rest) = some (green, rest) := rfl

/-- The tags of a notice: the one that begins it, and those from the path on. -/
theorem tags_notice (r : Record) (root : Path) : Tag.list (r.notice root).toList =
    ⟨green, none⟩ :: Tag.list (root.text ++ "[/green]").toList := by
  have hopen : "  [green]Created ".toList =
      [' ', ' '] ++ '[' :: (green ++ ']' :: "Created ".toList) := by decide +kernel
  have hchars : (r.notice root).toList = [' ', ' '] ++ '[' :: (green ++ ']' ::
      ("Created ".toList ++ ((toString r.created.length).toList ++ (" paths in ".toList ++
        (root.text ++ "[/green]").toList)))) := by
    unfold Record.notice
    rw [String.toList_append, String.toList_append, String.toList_append, String.toList_append,
      hopen, String.toList_append]
    simp only [List.append_assoc, List.cons_append]
  rw [hchars, list_append_of_plain (isPlainChar_of_all (by decide)), list_cons_tag (body?_green _),
    list_append_of_plain (isPlainChar_of_all (by decide +kernel)),
    list_append_of_plain fun c hc => isPlainChar_number hc,
    list_append_of_plain (isPlainChar_of_all (by decide +kernel))]
  rfl

/-- Whether a notice can be shown does not depend on the number in it. -/
theorem check_notice_congr (r r' : Record) (root : Path) :
    check (r.notice root) = check (r'.notice root) := by
  rw [check, check, tags_notice, tags_notice]

theorem check_notice_of_plain (h : ∀ c ∈ root.text.toList, IsPlainChar c) :
    check (r.notice root) = .ok () := by
  rw [check, tags_notice, String.toList_append, list_append_of_plain h]
  decide +kernel

/-- Where the words of a cause are not given, the notice without them is shown if and only if it is
shown with them, as long as they are mild. -/
theorem check_notice_of_mild (f : Failure) {words : String} (h : f.cause.words? = none)
    (hmild : IsMild words.toList) :
    check ("  [red]" ++ f.recipe ++ " failed: " ++ words ++ "[/red]") = check f.notice := by
  have hgap : " failed: ".toList = " failed:".toList ++ [' '] := by decide +kernel
  have hclose : "[/red]".toList = '[' :: "/red]".toList := by decide +kernel
  have hchars : ∀ words : String,
      ("  [red]" ++ f.recipe ++ " failed: " ++ words ++ "[/red]").toList =
      ("  [red]" ++ f.recipe ++ " failed:").toList ++
        ' ' :: (words.toList ++ '[' :: "/red]".toList) := by
    intro words
    simp only [String.toList_append, hgap, hclose, List.append_assoc, List.cons_append,
      List.nil_append]
  rw [check, check, Failure.notice, h, Option.getD_none, hchars, hchars, list_of_mild hmild]
  rfl

end Scaffold
