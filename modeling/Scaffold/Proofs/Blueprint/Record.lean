import Scaffold.Blueprint.Record

/-!
# Records of choices

A record is read if its six fields are, each under one of its names, and it has no others
(`Choices.ofFields_ok_iff`). Of the record of a blueprint, its six choices under their long names,
just these choices are read (`ofFields_record`), and they make the blueprint again (`remade`).
Nothing that is tried on a record changes one of its fields (`attempt_field`); what goes through
sets a name that lies outside of it (`attempt_ok_iff`).
-/

namespace Scaffold

open Json

section

variable {fields : List (String × Json)} {c : Choices}

theorem FieldName.read_ok_iff {α : Type} {f : FieldName} {value : Json → Except Problem α} {a : α} :
    f.read fields value = .ok a ↔ ∃ key x, f.find? fields = some (key, x) ∧ value x = .ok a := by
  unfold FieldName.read
  cases f.find? fields with
  | none => simp
  | some found =>
    obtain ⟨key, x⟩ := found
    have hvalue : (value x).mapError (Issue.mk (some key)) = .ok a ↔ value x = .ok a := by
      cases value x with
      | ok b => constructor <;> rintro ⟨⟩ <;> rfl
      | error e => exact iff_of_false nofun nofun
    constructor
    · exact fun h => ⟨key, x, rfl, hvalue.mp h⟩
    · rintro ⟨_, _, ⟨⟩, h⟩
      exact hvalue.mpr h

theorem Choices.ofFields_ok_iff : Choices.ofFields fields = .ok c ↔
    nameField.read fields Json.text = .ok c.name ∧
      languageField.read fields (word Language) = .ok c.language ∧
      importStyleField.read fields (word ImportStyle) = .ok c.importStyle ∧
      databaseField.read fields (word Database) = .ok c.database ∧
      ormField.read fields (word Orm) = .ok c.orm ∧
      targetField.read fields Json.text = .ok c.target ∧
      FieldName.others fieldNames fields = [] := by
  unfold Choices.ofFields
  constructor
  · intro h
    dsimp only at h
    split at h
    · next h1 h2 h3 h4 h5 h6 h7 =>
      cases h
      exact ⟨h1, h2, h3, h4, h5, h6, List.map_eq_nil_iff.mp h7⟩
    · cases h
  · rintro ⟨h1, h2, h3, h4, h5, h6, h7⟩
    simp only [h1, h2, h3, h4, h5, h6, h7, List.map_nil]

/-- Choices break no rule if the ORM goes with the database, the name is accepted and the target
starts at the root. -/
theorem Choices.broken?_eq_none_iff : c.broken? = none ↔
    ¬ (c.database = .mongo ∧ c.orm ≠ .mongoose ∧ c.orm ≠ .absent) ∧
      ¬ (c.database.isSql ∧ c.orm = .mongoose) ∧
      isAcceptedName c.name.toList = true ∧ startsAtRoot c.target = true := by
  unfold Choices.broken?
  split
  · next hmongo => exact iff_of_false nofun fun h => h.1 hmongo
  next hmongo =>
  split
  · next hsql => exact iff_of_false nofun fun h => h.2.1 hsql
  next hsql =>
  rw [and_iff_right hmongo, and_iff_right hsql]
  split
  · next hname => exact iff_of_false nofun fun h => by simp [h.1] at hname
  next hname =>
  rw [and_iff_right (by simpa using hname)]
  split
  · next htarget => exact iff_of_false nofun fun h => by simp [h] at htarget
  · next htarget => exact iff_of_true rfl (by simpa using htarget)

end

theorem word_of_choice {α : Type} [Choice α] {a : α} {w : String} (h : Choice.ofWord? w = some a) :
    Choices.word α (.str w) = .ok a := by
  simp [Choices.word, str?, h]

theorem Language.ofWord?_word : ∀ x : Language, Choice.ofWord? x.word = some x
  | .typescript | .javascript => by decide

theorem ImportStyle.ofWord?_word : ∀ x : ImportStyle, Choice.ofWord? x.word = some x
  | .esm | .commonjs => by decide

theorem Database.ofWord?_word : ∀ x : Database, Choice.ofWord? x.word = some x
  | .postgres | .mysql | .sqlite | .mongo | .absent => by decide

theorem Orm.ofWord?_word : ∀ x : Orm, Choice.ofWord? x.word = some x
  | .prisma | .drizzle | .mongoose | .absent => by decide

namespace Blueprint

/-! ## The record of a blueprint -/

/-- The fields that a blueprint is stored as. -/
def record (b : Blueprint) : List (String × Json) :=
  b.entries.map fun (key, value) => (key, .str value)

theorem find?_record (b : Blueprint) :
    Choices.nameField.find? b.record = some ("project_name", .str b.name) ∧
      Choices.languageField.find? b.record = some ("language", .str b.language.word) ∧
      Choices.importStyleField.find? b.record = some ("import_style", .str b.importStyle.word) ∧
      Choices.databaseField.find? b.record = some ("database", .str b.database.word) ∧
      Choices.ormField.find? b.record = some ("orm", .str b.orm.word) ∧
      Choices.targetField.find? b.record = some ("target_path", .str b.target) :=
  ⟨rfl, rfl, rfl, rfl, rfl, rfl⟩

theorem others_record (b : Blueprint) : FieldName.others Choices.fieldNames b.record = [] := by
  obtain ⟨h1, h2, h3, h4, h5, h6⟩ := b.find?_record
  simp only [FieldName.others, Choices.fieldNames, List.filterMap_cons, List.filterMap_nil, h1, h2,
    h3, h4, h5, h6, Option.map_some]
  simp [record, entries]

theorem ofFields_record (b : Blueprint) : Choices.ofFields b.record = .ok b.choices := by
  obtain ⟨h1, h2, h3, h4, h5, h6⟩ := b.find?_record
  refine Choices.ofFields_ok_iff.mpr ⟨?_, ?_, ?_, ?_, ?_, ?_, b.others_record⟩ <;>
    refine FieldName.read_ok_iff.mpr ?_
  · exact ⟨_, _, h1, rfl⟩
  · exact ⟨_, _, h2, word_of_choice (Language.ofWord?_word _)⟩
  · exact ⟨_, _, h3, word_of_choice (ImportStyle.ofWord?_word _)⟩
  · exact ⟨_, _, h4, word_of_choice (Database.ofWord?_word _)⟩
  · exact ⟨_, _, h5, word_of_choice (Orm.ofWord?_word _)⟩
  · exact ⟨_, _, h6, rfl⟩

theorem accept_choices (b : Blueprint) : accept b.choices = .ok b := by
  unfold accept ofChoices
  split
  · rfl
  · next h => rw [b.accepted] at h; cases h

theorem remade (b : Blueprint) : ofFields b.record = .ok b := by
  unfold ofFields
  rw [b.ofFields_record]
  exact b.accept_choices

end Blueprint

/-! ## Attempts on a record -/

namespace Choices

variable {a : Blueprint.Attempt} {name : String}

/-- Deleting, and setting a name with no low line in front, is refused as a change of the record. -/
theorem attempt_of_inside (h : ∀ x, a = .set x → name.toList.head? ≠ some '_') :
    attempt a name = .error (.issues (frozen name)) := by
  unfold attempt
  split
  · next x _ hname => exact absurd (by rw [hname, List.head?_cons]) (h x rfl)
  · rfl

theorem setOutside_ok_iff {x : Json} : setOutside name x = .ok () ↔
    name ∉ fixedNames ∧ name ≠ "__class__" ∧ (name = "__dict__" → x.fields?.isSome) := by
  unfold setOutside
  split
  · next hfixed => exact iff_of_false nofun fun h => h.1 (List.contains_iff_mem.mp hfixed)
  next hfixed =>
  rw [List.contains_iff_mem] at hfixed
  split
  · next hclass => exact iff_of_false nofun fun h => h.2.1 hclass
  next hclass =>
  rw [and_iff_right hfixed, and_iff_right hclass]
  split
  · next hdict =>
    obtain ⟨hname, hx⟩ := Bool.and_eq_true_iff.mp hdict
    refine iff_of_false nofun fun h => ?_
    rw [Option.isNone_iff_eq_none] at hx
    simpa [hx] using h (of_decide_eq_true hname)
  · next hdict =>
    refine iff_of_true rfl fun hname => ?_
    simpa [hname, Option.isSome_iff_ne_none] using hdict

/-- **A record is frozen.** What goes through sets a name with a low line in front, which is none of
those that are fixed and not the class; only a record takes the place of its dictionary. -/
theorem attempt_ok_iff : attempt a name = .ok () ↔
    ∃ x, a = .set x ∧ name.toList.head? = some '_' ∧ name ∉ fixedNames ∧ name ≠ "__class__" ∧
      (name = "__dict__" → x.fields?.isSome) := by
  by_cases houtside : ∃ x, a = .set x ∧ name.toList.head? = some '_'
  · obtain ⟨x, rfl, hhead⟩ := houtside
    obtain ⟨later, hname⟩ := List.head?_eq_some_iff.mp hhead
    have hattempt : attempt (.set x) name = setOutside name x := by simp only [attempt, hname]
    rw [hattempt, setOutside_ok_iff]
    constructor
    · exact fun h => ⟨x, rfl, hhead, h⟩
    · rintro ⟨_, ⟨⟩, -, h⟩
      exact h
  · rw [attempt_of_inside fun x ha hhead => houtside ⟨x, ha, hhead⟩]
    exact iff_of_false nofun fun ⟨x, ha, hhead, _⟩ => houtside ⟨x, ha, hhead⟩

/-- No field can be set or deleted, under neither of its names. -/
theorem attempt_field : ∀ f ∈ fieldNames, ∀ name ∈ f.name :: f.short?.toList,
    attempt a name = .error (.issues (frozen name)) := by
  have hinside : ∀ f ∈ fieldNames, ∀ name ∈ f.name :: f.short?.toList,
      name.toList.head? ≠ some '_' := by decide
  exact fun f hf name hname => attempt_of_inside fun _ _ => hinside f hf name hname

end Choices

end Scaffold
