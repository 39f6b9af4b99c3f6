import Scaffold.Blueprint.File
import Scaffold.Proofs.Blueprint.Record

/-!
# The names of blueprints

A clean name is made of lower-case letters, digits, hyphens and low lines, all of them ASCII, and is
not empty. The rule for names takes the clean ones, and each of them with one line feed after it
(`isAcceptedName_iff`). So these are the names that blueprints have, whatever they are made from:
fields, choices, changes to another blueprint or a stored file (`name_of_made_iff`).
-/

namespace Scaffold

/-- A lower-case letter, a digit, a hyphen or a low line, by its code. -/
def IsCleanChar (c : Char) : Prop :=
  ('a' ≤ c ∧ c ≤ 'z') ∨ ('0' ≤ c ∧ c ≤ '9') ∨ c = '-' ∨ c = '_'

structure IsCleanName (name : String) : Prop where
  nonempty : name ≠ ""
  chars : ∀ c ∈ name.toList, IsCleanChar c

section

variable {c : Char} {name clean : String}

theorem isNameChar_iff : isNameChar c = true ↔ IsCleanChar c := by
  have hlower : c.isLower = true ↔ 'a' ≤ c ∧ c ≤ 'z' := by
    change (decide (c.val ≥ 97) && decide (c.val ≤ 122)) = true ↔ _
    rw [Bool.and_eq_true, decide_eq_true_eq, decide_eq_true_eq]
    rfl
  have hdigit : c.isDigit = true ↔ '0' ≤ c ∧ c ≤ '9' := by simp [Char.isDigit, Char.le_def]
  simp only [isNameChar, Bool.or_eq_true, decide_eq_true_eq, hlower, hdigit, IsCleanChar, or_assoc]

theorem not_isCleanChar_lineFeed : ¬ IsCleanChar '\n' := by
  rw [← isNameChar_iff]
  decide

theorem isCleanName_iff :
    IsCleanName name ↔ (!name.toList.isEmpty && name.toList.all isNameChar) = true := by
  rw [Bool.and_eq_true, List.all_eq_true, Bool.not_eq_true', List.isEmpty_eq_false_iff]
  constructor
  · intro h
    exact ⟨fun he => h.nonempty (String.toList_eq_nil_iff.mp he),
      fun c hc => isNameChar_iff.mpr (h.chars c hc)⟩
  · rintro ⟨hne, hall⟩
    exact ⟨fun he => hne (String.toList_eq_nil_iff.mpr he),
      fun c hc => isNameChar_iff.mp (hall c hc)⟩

theorem IsCleanName.getLast?_ne (h : IsCleanName name) : name.toList.getLast? ≠ some '\n' :=
  fun hl => not_isCleanChar_lineFeed (h.chars _ (List.mem_of_getLast? hl))

theorem isAcceptedName_iff : isAcceptedName name.toList = true ↔
    IsCleanName name ∨ ∃ clean, IsCleanName clean ∧ name = clean ++ "\n" := by
  unfold isAcceptedName
  constructor
  · intro h
    split at h
    · next hl =>
      obtain ⟨body, hbody⟩ := List.getLast?_eq_some_iff.mp hl
      rw [hbody, List.dropLast_concat] at h
      have hclean : IsCleanName (String.ofList body) :=
        isCleanName_iff.mpr (by rwa [String.toList_ofList])
      refine .inr ⟨_, hclean, String.toList_inj.mp ?_⟩
      rw [hbody, String.toList_append, String.toList_ofList]
      rfl
    · exact .inl (isCleanName_iff.mpr h)
  · rintro (h | ⟨clean, h, rfl⟩)
    · rw [if_neg h.getLast?_ne]
      exact isCleanName_iff.mp h
    · have hchars : (clean ++ "\n").toList = clean.toList ++ ['\n'] := String.toList_append
      rw [hchars, if_pos List.getLast?_concat, List.dropLast_concat]
      exact isCleanName_iff.mp h

end

namespace Blueprint

variable {name : String}

/-! ## Blueprints that are made -/

/-- A blueprint that can be come by: from fields, from choices, by changes to another one, or from a
file. -/
inductive IsMade : Blueprint → Prop where
  | fields {fields : List (String × Json)} {b : Blueprint} (h : ofFields fields = .ok b) : IsMade b
  | choices {c : Choices} {b : Blueprint} (h : accept c = .ok b) : IsMade b
  | changed {b b' : Blueprint} {changes : List (String × Json)} (hb : IsMade b)
      (h : b.withChanges changes = .ok b') : IsMade b'
  | loaded {s : Store} {path : String} {b : Blueprint} (h : load s path = .ok b) : IsMade b

/-- An accepted name is enough for a server without a database. -/
theorem unbroken_of_isAcceptedName (h : isAcceptedName name.toList = true) :
    (⟨name, .javascript, .esm, .absent, .absent, "/"⟩ : Choices).broken? = none := by
  have hroot : startsAtRoot "/" = true := by decide
  exact Choices.broken?_eq_none_iff.mpr ⟨nofun, nofun, h, hroot⟩

/-- **Names are clean but for a line feed.** The names of the blueprints that can be made, from any
fields, choices or files and by any changes one after the other, are the clean names and the clean
names with one line feed after them. -/
theorem name_of_made_iff (name : String) : (∃ b, IsMade b ∧ b.name = name) ↔
    IsCleanName name ∨ ∃ clean, IsCleanName clean ∧ name = clean ++ "\n" := by
  rw [← isAcceptedName_iff]
  constructor
  · rintro ⟨b, -, rfl⟩
    exact (Choices.broken?_eq_none_iff.mp b.accepted).2.2.1
  · intro h
    exact ⟨⟨_, unbroken_of_isAcceptedName h⟩, .fields (remade _), rfl⟩

end Blueprint

end Scaffold
