import Scaffold.Proofs.Blueprint.Fields
import Scaffold.Proofs.Blueprint.Names

/-!
# What becomes of a record

A record spells choices out if it gives each of the six fields its value under one of its names and
holds nothing else (`Choices.IsSpelled`). Such a record makes a blueprint unless its choices break a
rule, and then the first broken one is the reason of the refusal. Every other record is refused with
a report (`IsReport`): one issue for each field that is missing or has a wrong value, in the order
of the fields, and then one for each key that no field is found under. Main statement:
`ofFields_outcome`.
-/

namespace Scaffold

/-- A record gives a field a value under one of its names and nothing under another. -/
def FieldName.GivenOnce (f : FieldName) (fields : List (String × Json)) (x : Json) : Prop :=
  ∃ key ∈ f.names, (key, x) ∈ fields ∧ ∀ other ∈ f.names, other ∈ Json.keys fields → other = key

/-- What values a field takes. -/
inductive FieldKind where
  | text
  | oneOf (words : List String)

namespace FieldKind

def Admits : FieldKind → Json → Prop
  | text, x => ∃ s, x = .str s
  | oneOf words, x => ∃ w ∈ words, x = .str w

def problem : FieldKind → Problem
  | text => .notText
  | oneOf words => .notAmong words

end FieldKind

structure Field where
  name : FieldName
  kind : FieldKind

namespace Choices

def allFields : List Field := [
  ⟨nameField, .text⟩,
  ⟨languageField, .oneOf ["typescript", "javascript"]⟩,
  ⟨importStyleField, .oneOf ["esm", "commonjs"]⟩,
  ⟨databaseField, .oneOf ["postgres", "mysql", "sqlite", "mongo", "none"]⟩,
  ⟨ormField, .oneOf ["prisma", "drizzle", "mongoose", "none"]⟩,
  ⟨targetField, .text⟩]

/-- A record spells choices out: each field is given once, and there is no other key. -/
structure IsSpelled (c : Choices) (fields : List (String × Json)) : Prop where
  name : nameField.GivenOnce fields (.str c.name)
  language : languageField.GivenOnce fields (.str c.language.word)
  importStyle : importStyleField.GivenOnce fields (.str c.importStyle.word)
  database : databaseField.GivenOnce fields (.str c.database.word)
  orm : ormField.GivenOnce fields (.str c.orm.word)
  target : targetField.GivenOnce fields (.str c.target)
  known : ∀ key ∈ Json.keys fields, ∃ f ∈ fieldNames, key ∈ f.names

inductive Breaks (c : Choices) : BrokenRule → Prop where
  | mongo (hd : c.database = .mongo) (ho : c.orm ≠ .mongoose) (hn : c.orm ≠ .absent) :
    Breaks c (.mongoNeedsMongoose c.orm)
  | sql (hd : c.database = .postgres ∨ c.database = .mysql ∨ c.database = .sqlite)
    (ho : c.orm = .mongoose) : Breaks c (.sqlWithMongoose c.database)
  | name (h : ¬ IsCleanName c.name) : Breaks c (.badName c.name)
  | target (h : c.target.toList.head? ≠ some '/') : Breaks c (.relativeTarget c.target)

end Choices

/-- The place of a rule among the four. -/
def BrokenRule.number : BrokenRule → Nat
  | mongoNeedsMongoose _ => 1
  | sqlWithMongoose _ => 2
  | badName _ => 3
  | relativeTarget _ => 4

/-- Of the rules that choices break this one stands first. -/
def Choices.BreaksFirst (c : Choices) (rule : BrokenRule) : Prop :=
  c.Breaks rule ∧ ∀ other, c.Breaks other → rule.number ≤ other.number

/-- What is wrong with one field of a record. -/
inductive Field.IsFlaw (fields : List (String × Json)) (f : Field) : Issue → Prop where
  | missing (h : ∀ key ∈ f.name.names, key ∉ Json.keys fields) :
    IsFlaw fields f ⟨some f.name.reported, .missing⟩
  | wrong {key : String} {x : Json} (h : f.name.Finds fields key x) (hx : ¬ f.kind.Admits x) :
    IsFlaw fields f ⟨some key, f.kind.problem⟩

/-- What is wrong with some fields: one issue for each that is not sound, in their order. -/
inductive AreFlaws (fields : List (String × Json)) : List Field → List Issue → Prop where
  | nil : AreFlaws fields [] []
  | sound {f : Field} {rest : List Field} {issues : List Issue} {key : String} {x : Json}
    (h : f.name.Finds fields key x) (hx : f.kind.Admits x) (hrest : AreFlaws fields rest issues) :
    AreFlaws fields (f :: rest) issues
  | flawed {f : Field} {rest : List Field} {issue : Issue} {issues : List Issue}
    (h : f.IsFlaw fields issue) (hrest : AreFlaws fields rest issues) :
    AreFlaws fields (f :: rest) (issue :: issues)

/-- A key that is no name of a field, or a field's own name beside its short one. -/
def IsUnknown (fields : List (String × Json)) (key : String) : Prop :=
  (∀ f ∈ Choices.fieldNames, key ∉ f.names) ∨
    ∃ f ∈ Choices.fieldNames, key = f.name ∧ ∃ short, f.short? = some short ∧
      short ∈ Json.keys fields

/-- The issues of the fields, and then one for each unknown key in the order of the record. -/
def IsReport (fields : List (String × Json)) (issues : List Issue) : Prop :=
  ∃ (flaws : List Issue) (unknown : List String),
    issues = flaws ++ unknown.map (⟨some ·, .unexpected⟩) ∧
    AreFlaws fields Choices.allFields flaws ∧ unknown.Sublist (Json.keys fields) ∧
    ∀ key ∈ Json.keys fields, key ∈ unknown ↔ IsUnknown fields key

variable {fields : List (String × Json)} {f g : FieldName} {key : String} {x : Json} {c : Choices}
  {rule : BrokenRule} {issues : List Issue}

/-! ## Spelled records -/

theorem mem_others_iff (h : (Json.keys fields).Nodup) (hk : key ∈ Json.keys fields) :
    key ∈ FieldName.others Choices.fieldNames fields ↔ IsUnknown fields key := by
  have hothers : key ∈ FieldName.others Choices.fieldNames fields ↔
      ∀ f ∈ Choices.fieldNames, ∀ x, ¬ f.Finds fields key x := by
    have hin : key ∈ fields.map (·.1) := hk
    simp only [FieldName.others, List.mem_filter, hin, true_and, Bool.not_eq_true',
      ← Bool.not_eq_true, List.contains_iff_mem, List.mem_filterMap, Option.map_eq_some_iff,
      Prod.exists, FieldName.find?_eq_some_iff h]
    constructor
    · rintro hno f hf x hx
      exact hno ⟨f, hf, key, x, hx, rfl⟩
    · rintro hno ⟨f, hf, k, x, hx, rfl⟩
      exact hno f hf x hx
  obtain ⟨x, hx⟩ := Json.mem_keys_iff.mp hk
  rw [hothers]
  constructor
  · intro hno
    by_cases hnamed : ∃ f ∈ Choices.fieldNames, key ∈ f.names
    · obtain ⟨f, hf, hkf⟩ := hnamed
      rcases FieldName.mem_names.mp hkf with hs | rfl
      · exact absurd ⟨hx, .inl hs⟩ (hno f hf x)
      · -- the field is not found under its own name, so the short one is there
        refine .inr ⟨f, hf, rfl, ?_⟩
        by_contra hshort
        push Not at hshort
        exact hno f hf x ⟨hx, .inr ⟨rfl, hshort⟩⟩
    · push Not at hnamed
      exact .inl hnamed
  · rintro (hno | ⟨f, hf, rfl, short, hs, hin⟩) g hg y hy
    · exact hno g hg hy.mem_names
    · obtain rfl := Choices.eq_of_mem_names hf hg f.name_mem_names hy.mem_names
      rcases hy.2 with he | ⟨-, hmissing⟩
      · exact Choices.short_ne_name hf he rfl
      · exact hmissing short hs hin

theorem others_eq_nil_iff (h : (Json.keys fields).Nodup) :
    FieldName.others Choices.fieldNames fields = [] ↔
      ∀ key ∈ Json.keys fields, ¬ IsUnknown fields key := by
  rw [List.eq_nil_iff_forall_not_mem]
  constructor
  · intro hnil key hk hu
    exact hnil key ((mem_others_iff h hk).mpr hu)
  · intro hno key hin
    have hk : key ∈ Json.keys fields := List.mem_of_mem_filter hin
    exact hno key hk ((mem_others_iff h hk).mp hin)

theorem FieldName.GivenOnce.finds (hf : f ∈ Choices.fieldNames) (h : f.GivenOnce fields x) :
    ∃ key, f.Finds fields key x := by
  obtain ⟨key, hk, hin, honly⟩ := h
  refine ⟨key, hin, (FieldName.mem_names.mp hk).imp_right ?_⟩
  rintro rfl
  refine ⟨rfl, fun short hs hshort => Choices.short_ne_name hf hs ?_⟩
  exact honly short (FieldName.mem_names.mpr (.inl hs)) hshort

theorem FieldName.Finds.givenOnce (hf : f ∈ Choices.fieldNames)
    (hno : ∀ key ∈ Json.keys fields, ¬ IsUnknown fields key) (h : f.Finds fields key x) :
    f.GivenOnce fields x := by
  refine ⟨key, h.mem_names, h.1, fun other ho hother => ?_⟩
  rcases h.2 with hs | ⟨rfl, hmissing⟩
  · rcases FieldName.mem_names.mp ho with hs' | rfl
    · exact Option.some.inj (hs'.symm.trans hs)
    · exact absurd (.inr ⟨f, hf, rfl, key, hs, Json.mem_keys h.1⟩) (hno f.name hother)
  · rcases FieldName.mem_names.mp ho with hs' | rfl
    · exact absurd hother (hmissing other hs')
    · rfl

namespace Choices

theorem IsSpelled.no_unknown (h : c.IsSpelled fields) :
    ∀ key ∈ Json.keys fields, ¬ IsUnknown fields key := by
  have hgiven : ∀ f ∈ fieldNames, ∃ x, f.GivenOnce fields x := by
    simp only [fieldNames, List.forall_mem_cons]
    exact ⟨⟨_, h.name⟩, ⟨_, h.language⟩, ⟨_, h.importStyle⟩, ⟨_, h.database⟩, ⟨_, h.orm⟩,
      ⟨_, h.target⟩, List.forall_mem_nil _⟩
  rintro key hk (hno | ⟨f, hf, rfl, short, hs, hshort⟩)
  · obtain ⟨f, hf, hkf⟩ := h.known key hk
    exact hno f hf hkf
  · obtain ⟨x, found, -, -, honly⟩ := hgiven f hf
    have h1 : short = found := honly short (FieldName.mem_names.mpr (.inl hs)) hshort
    have h2 : f.name = found := honly f.name f.name_mem_names hk
    exact short_ne_name hf hs (h1.trans h2.symm)

theorem read_eq_ok_iff (h : (Json.keys fields).Nodup) {α : Type} {value : Json → Except Problem α}
    {a : α} {w : String} (hv : ∀ x, value x = .ok a ↔ x = .str w) :
    f.read fields value = .ok a ↔ ∃ key, f.Finds fields key (.str w) := by
  rw [FieldName.read_ok_iff]
  constructor
  · rintro ⟨key, x, hfound, hx⟩
    rw [hv] at hx
    subst hx
    exact ⟨key, (FieldName.find?_eq_some_iff h).mp hfound⟩
  · rintro ⟨key, hfound⟩
    exact ⟨key, .str w, (FieldName.find?_eq_some_iff h).mpr hfound, (hv _).mpr rfl⟩

/-- The records that are read are those that spell choices out. -/
theorem ofFields_ok_iff_isSpelled (h : (Json.keys fields).Nodup) :
    Choices.ofFields fields = .ok c ↔ c.IsSpelled fields := by
  have hname : ∀ x, Json.text x = .ok c.name ↔ _ := fun x => text_eq_ok_iff
  have htarget : ∀ x, Json.text x = .ok c.target ↔ _ := fun x => text_eq_ok_iff
  have hlanguage : ∀ x, word Language x = .ok c.language ↔ _ :=
    fun x => word_eq_ok_iff Language.ofWord?_word
  have hstyle : ∀ x, word ImportStyle x = .ok c.importStyle ↔ _ :=
    fun x => word_eq_ok_iff ImportStyle.ofWord?_word
  have hdatabase : ∀ x, word Database x = .ok c.database ↔ _ :=
    fun x => word_eq_ok_iff Database.ofWord?_word
  have horm : ∀ x, word Orm x = .ok c.orm ↔ _ := fun x => word_eq_ok_iff Orm.ofWord?_word
  rw [ofFields_ok_iff, read_eq_ok_iff h hname, read_eq_ok_iff h hlanguage, read_eq_ok_iff h hstyle,
    read_eq_ok_iff h hdatabase, read_eq_ok_iff h horm, read_eq_ok_iff h htarget,
    others_eq_nil_iff h]
  constructor
  · rintro ⟨⟨_, h1⟩, ⟨_, h2⟩, ⟨_, h3⟩, ⟨_, h4⟩, ⟨_, h5⟩, ⟨_, h6⟩, hno⟩
    refine ⟨h1.givenOnce (by simp [fieldNames]) hno, h2.givenOnce (by simp [fieldNames]) hno,
      h3.givenOnce (by simp [fieldNames]) hno, h4.givenOnce (by simp [fieldNames]) hno,
      h5.givenOnce (by simp [fieldNames]) hno, h6.givenOnce (by simp [fieldNames]) hno,
      fun key hk => ?_⟩
    by_contra hnone
    push Not at hnone
    exact hno key hk (.inl hnone)
  · intro hs
    exact ⟨hs.name.finds (by simp [fieldNames]), hs.language.finds (by simp [fieldNames]),
      hs.importStyle.finds (by simp [fieldNames]), hs.database.finds (by simp [fieldNames]),
      hs.orm.finds (by simp [fieldNames]), hs.target.finds (by simp [fieldNames]), hs.no_unknown⟩

end Choices

/-! ## Refused records -/

namespace Choices

def fieldIssues (fields : List (String × Json)) : List Issue :=
  Issue.ofResult (nameField.read fields Json.text) ++
    (Issue.ofResult (languageField.read fields (word Language)) ++
    (Issue.ofResult (importStyleField.read fields (word ImportStyle)) ++
    (Issue.ofResult (databaseField.read fields (word Database)) ++
    (Issue.ofResult (ormField.read fields (word Orm)) ++
    (Issue.ofResult (targetField.read fields Json.text) ++ [])))))

theorem ofFields_error (h : Choices.ofFields fields = .error issues) :
    issues = fieldIssues fields ++
      (FieldName.others fieldNames fields).map (⟨some ·, .unexpected⟩) := by
  unfold Choices.ofFields at h
  dsimp only at h
  split at h
  · cases h
  · cases h
    simp only [fieldIssues, List.append_assoc, List.nil_append]

theorem issues_ne_nil (h : Choices.ofFields fields = .error issues) : issues ≠ [] := by
  rintro rfl
  have hok : ∀ {α : Type} {r : Except Issue α}, Issue.ofResult r = [] → ∃ a, r = .ok a := by
    intro α r hr
    cases r with
    | ok a => exact ⟨a, rfl⟩
    | error issue => cases hr
  have hnil := (ofFields_error h).symm
  simp only [fieldIssues, List.append_eq_nil_iff, List.map_eq_nil_iff] at hnil
  obtain ⟨⟨h1, h2, h3, h4, h5, h6, -⟩, hno⟩ := hnil
  obtain ⟨name, h1⟩ := hok h1
  obtain ⟨language, h2⟩ := hok h2
  obtain ⟨style, h3⟩ := hok h3
  obtain ⟨database, h4⟩ := hok h4
  obtain ⟨orm, h5⟩ := hok h5
  obtain ⟨target, h6⟩ := hok h6
  have hread : Choices.ofFields fields = .ok ⟨name, language, style, database, orm, target⟩ :=
    ofFields_ok_iff.mpr ⟨h1, h2, h3, h4, h5, h6, hno⟩
  rw [hread] at h
  cases h

end Choices

/-- A reader takes just the values that a field takes. -/
structure FieldKind.IsReadBy {α : Type} (kind : FieldKind) (value : Json → Except Problem α) :
    Prop where
  ok : ∀ x a, value x = .ok a → kind.Admits x
  error : ∀ x p, value x = .error p → ¬ kind.Admits x ∧ p = kind.problem

theorem text_isReadBy : FieldKind.text.IsReadBy Json.text where
  ok x s h := ⟨s, Choices.text_eq_ok_iff.mp h⟩
  error x p h := by
    cases x with
    | str s => cases h
    | _ => cases h; exact ⟨nofun, rfl⟩

theorem word_isReadBy (α : Type) [Choice α] :
    (FieldKind.oneOf (Choice.words α)).IsReadBy (Choices.word α) where
  ok x a h := by
    unfold Choices.word at h
    split at h
    · next b hb =>
      obtain ⟨s, hs, hw⟩ := Option.bind_eq_some_iff.mp hb
      cases x with
      | str t =>
        cases hs
        refine ⟨s, ?_, rfl⟩
        have hin : b ∈ (Choice.all : List α) := List.mem_of_find?_eq_some hw
        have hword : Choice.word b = s := by simpa using List.find?_some hw
        exact hword ▸ List.mem_map_of_mem hin
      | _ => cases hs
    · cases h
  error x p h := by
    unfold Choices.word at h
    split at h
    · cases h
    · next hno =>
      cases h
      refine ⟨?_, rfl⟩
      rintro ⟨w, hw, rfl⟩
      obtain ⟨a, ha, rfl⟩ := List.mem_map.mp hw
      have hnone : Choice.ofWord? (Choice.word a) = (none : Option α) := hno
      simpa using List.find?_eq_none.mp hnone a ha

/-- What reading a field reports is what is wrong with it. -/
theorem AreFlaws.cons {f : Field} {rest : List Field} {α : Type} {value : Json → Except Problem α}
    (h : (Json.keys fields).Nodup) (hv : f.kind.IsReadBy value)
    (hrest : AreFlaws fields rest issues) :
    AreFlaws fields (f :: rest) (Issue.ofResult (f.name.read fields value) ++ issues) := by
  unfold FieldName.read
  cases hfound : f.name.find? fields with
  | none => exact .flawed (.missing (FieldName.find?_eq_none_iff.mp hfound)) hrest
  | some found =>
    obtain ⟨key, x⟩ := found
    have hfinds : f.name.Finds fields key x := (FieldName.find?_eq_some_iff h).mp hfound
    cases hx : value x with
    | ok a =>
      simp only [hx]
      exact .sound hfinds (hv.ok x a hx) hrest
    | error p =>
      obtain ⟨hno, rfl⟩ := hv.error x p hx
      simp only [hx]
      exact .flawed (.wrong hfinds hno) hrest

theorem areFlaws_fieldIssues (h : (Json.keys fields).Nodup) :
    AreFlaws fields Choices.allFields (Choices.fieldIssues fields) :=
  .cons h text_isReadBy <| .cons h (word_isReadBy Language) <|
    .cons h (word_isReadBy ImportStyle) <| .cons h (word_isReadBy Database) <|
    .cons h (word_isReadBy Orm) <| .cons h text_isReadBy .nil

theorem isReport_of_error (h : (Json.keys fields).Nodup)
    (he : Choices.ofFields fields = .error issues) : IsReport fields issues :=
  ⟨_, _, Choices.ofFields_error he, areFlaws_fieldIssues h, List.filter_sublist,
    fun _ hk => mem_others_iff h hk⟩

namespace Choices

/-- Without a line feed at the end only clean names are accepted. -/
theorem isAcceptedName_iff_isCleanName {name : String} (h : name.toList.getLast? ≠ some '\n') :
    isAcceptedName name.toList = true ↔ IsCleanName name := by
  rw [isAcceptedName_iff, or_iff_left]
  rintro ⟨clean, -, rfl⟩
  have hchars : (clean ++ "\n").toList = clean.toList ++ ['\n'] := String.toList_append
  rw [hchars] at h
  exact h List.getLast?_concat

theorem isSql_iff {d : Database} :
    d.isSql = true ↔ d = .postgres ∨ d = .mysql ∨ d = .sqlite := by
  cases d <;> decide

variable (hname : c.name.toList.getLast? ≠ some '\n')

include hname

theorem broken?_eq_none_iff_no_breaks : c.broken? = none ↔ ∀ rule, ¬ c.Breaks rule := by
  rw [broken?_eq_none_iff, isAcceptedName_iff_isCleanName hname, startsAtRoot, decide_eq_true_iff]
  constructor
  · rintro ⟨hmongo, hsql, hclean, hroot⟩ rule hbreaks
    cases hbreaks with
    | mongo hd ho hn => exact hmongo ⟨hd, ho, hn⟩
    | sql hd ho => exact hsql ⟨isSql_iff.mpr hd, ho⟩
    | name hno => exact hno hclean
    | target hno => exact hno hroot
  · intro hno
    refine ⟨fun ⟨hd, ho, hn⟩ => hno _ (.mongo hd ho hn),
      fun ⟨hd, ho⟩ => hno _ (.sql (isSql_iff.mp hd) ho), ?_, ?_⟩
    · by_contra hclean
      exact hno _ (.name hclean)
    · by_contra hroot
      exact hno _ (.target hroot)

/-- Of the broken rules the one that is tried first is the reason. -/
theorem breaksFirst_of_broken? (h : c.broken? = some rule) : c.BreaksFirst rule := by
  unfold broken? at h
  split at h
  · next hmongo =>
    cases h
    refine ⟨.mongo hmongo.1 hmongo.2.1 hmongo.2.2, fun other hother => ?_⟩
    cases hother <;> simp [BrokenRule.number]
  next hmongo =>
  split at h
  · next hsql =>
    cases h
    refine ⟨.sql (isSql_iff.mp hsql.1) hsql.2, fun other hother => ?_⟩
    cases hother with
    | mongo hd ho hn => exact absurd ⟨hd, ho, hn⟩ hmongo
    | _ => simp [BrokenRule.number]
  next hsql =>
  split at h
  · next hno =>
    cases h
    rw [Bool.not_eq_true', ← Bool.not_eq_true, isAcceptedName_iff_isCleanName hname] at hno
    refine ⟨.name hno, fun other hother => ?_⟩
    cases hother with
    | mongo hd ho hn => exact absurd ⟨hd, ho, hn⟩ hmongo
    | sql hd ho => exact absurd ⟨isSql_iff.mpr hd, ho⟩ hsql
    | _ => simp [BrokenRule.number]
  next hclean =>
  split at h
  · next hno =>
    cases h
    rw [Bool.not_eq_true', startsAtRoot, decide_eq_false_iff_not] at hno
    rw [Bool.not_eq_true', Bool.not_eq_false, isAcceptedName_iff_isCleanName hname] at hclean
    refine ⟨.target hno, fun other hother => ?_⟩
    cases hother with
    | mongo hd ho hn => exact absurd ⟨hd, ho, hn⟩ hmongo
    | sql hd ho => exact absurd ⟨isSql_iff.mpr hd, ho⟩ hsql
    | name hno => exact absurd hclean hno
    | target _ => simp [BrokenRule.number]
  · cases h

end Choices

/-! ## Blueprints -/

namespace Blueprint

theorem accept_eq_ok_iff {b : Blueprint} : accept c = .ok b ↔ b.choices = c := by
  constructor
  · intro h
    unfold accept ofChoices at h
    split at h
    · cases h; rfl
    · cases h
  · rintro rfl
    exact b.accept_choices

theorem accept_of_broken (h : c.broken? = some rule) : accept c = .error (.rule rule) := by
  unfold accept ofChoices
  split
  · next hnone => rw [h] at hnone; cases hnone
  · next other hother =>
    rw [h] at hother
    cases hother
    rfl

theorem ofFields_of_ok (h : Choices.ofFields fields = .ok c) : ofFields fields = accept c := by
  rw [ofFields, h]
  rfl

theorem ofFields_of_error (h : Choices.ofFields fields = .error issues) :
    ofFields fields = .error (.malformed issues) := by
  rw [ofFields, h]
  rfl

theorem choices_of_ofFields {b : Blueprint} (h : ofFields fields = .ok b) :
    Choices.ofFields fields = .ok b.choices := by
  cases hc : Choices.ofFields fields with
  | error issues =>
    rw [ofFields_of_error hc] at h
    cases h
  | ok c =>
    rw [ofFields_of_ok hc] at h
    rw [accept_eq_ok_iff.mp h]

/-- **What becomes of a record.** A record whose keys differ and whose name does not end in a line
feed makes a blueprint of just the choices that it spells out, if these break no rule. If it spells
choices out that break rules, the first of these rules is the reason of its refusal. And if it
spells no choices out, it is refused with a report of its flawed fields and unknown keys. -/
theorem ofFields_outcome (h : (Json.keys fields).Nodup)
    (hname : ∀ key name, Choices.nameField.Finds fields key (.str name) →
      name.toList.getLast? ≠ some '\n') :
    (∀ c : Choices, (∃ b, ofFields fields = .ok b ∧ b.choices = c) ↔
        c.IsSpelled fields ∧ ∀ rule, ¬ c.Breaks rule) ∧
      (∀ c : Choices, c.IsSpelled fields → (∃ rule, c.Breaks rule) →
        ∃ rule, c.BreaksFirst rule ∧ ofFields fields = .error (.rule rule)) ∧
      ((∀ c : Choices, ¬ c.IsSpelled fields) →
        ∃ issues, issues ≠ [] ∧ IsReport fields issues ∧
          ofFields fields = .error (.malformed issues)) := by
  have hread : ∀ c, Choices.ofFields fields = .ok c ↔ c.IsSpelled fields :=
    fun c => Choices.ofFields_ok_iff_isSpelled h
  have hlast : ∀ c : Choices, c.IsSpelled fields → c.name.toList.getLast? ≠ some '\n' := by
    intro c hc
    obtain ⟨key, hkey⟩ := hc.name.finds (by simp [Choices.fieldNames])
    exact hname key c.name hkey
  refine ⟨fun c => ⟨?_, ?_⟩, ?_, ?_⟩
  · rintro ⟨b, hb, rfl⟩
    have hspelled : b.choices.IsSpelled fields := (hread _).mp (choices_of_ofFields hb)
    exact ⟨hspelled, (Choices.broken?_eq_none_iff_no_breaks (hlast _ hspelled)).mp b.accepted⟩
  · rintro ⟨hspelled, hno⟩
    have hnone := (Choices.broken?_eq_none_iff_no_breaks (hlast c hspelled)).mpr hno
    refine ⟨⟨c, hnone⟩, ?_, rfl⟩
    rw [ofFields_of_ok ((hread c).mpr hspelled)]
    exact accept_eq_ok_iff.mpr rfl
  · rintro c hspelled ⟨rule, hbreaks⟩
    cases hfirst : c.broken? with
    | none =>
      have hno := (Choices.broken?_eq_none_iff_no_breaks (hlast c hspelled)).mp hfirst
      exact absurd hbreaks (hno rule)
    | some first =>
      refine ⟨first, Choices.breaksFirst_of_broken? (hlast c hspelled) hfirst, ?_⟩
      rw [ofFields_of_ok ((hread c).mpr hspelled), accept_of_broken hfirst]
  · intro hno
    cases hc : Choices.ofFields fields with
    | ok c => exact absurd ((hread c).mp hc) (hno c)
    | error issues =>
      exact ⟨issues, Choices.issues_ne_nil hc, isReport_of_error h hc, ofFields_of_error hc⟩

def mixedChoices : Choices := ⟨"My App", .javascript, .esm, .mongo, .prisma, "srv"⟩

def mixedRecord : List (String × Json) := [("targetPath", .str "srv"),
  ("projectName", .str "My App"), ("language", .str "javascript"), ("import_style", .str "esm"),
  ("database", .str "mongo"), ("orm", .str "prisma")]

/-- The long name stands beside the short one, with a line feed at the end of its value. -/
def flawedRecord : List (String × Json) := [("zone", .null), ("project_name", .str "a\n"),
  ("projectName", .int 3), ("orm", .str "Prisma"), ("language", .str "typescript"),
  ("targetPath", .str "/srv"), ("importstyle", .str "esm")]

def flawedIssues : List Issue := [⟨some "projectName", .notText⟩, ⟨some "importStyle", .missing⟩,
  ⟨some "database", .missing⟩, ⟨some "orm", .notAmong ["prisma", "drizzle", "mongoose", "none"]⟩,
  ⟨some "zone", .unexpected⟩, ⟨some "project_name", .unexpected⟩,
  ⟨some "importstyle", .unexpected⟩]

theorem ofFields_outcome_of_mixed :
    (Json.keys mixedRecord).Nodup ∧ mixedChoices.IsSpelled mixedRecord ∧
      mixedChoices.BreaksFirst (.mongoNeedsMongoose .prisma) ∧
      ofFields mixedRecord = .error (.rule (.mongoNeedsMongoose .prisma)) ∧
      (Json.keys flawedRecord).Nodup ∧ IsReport flawedRecord flawedIssues ∧
      ofFields flawedRecord = .error (.malformed flawedIssues) := by
  have hmixed : (Json.keys mixedRecord).Nodup := by decide
  have hflawed : (Json.keys flawedRecord).Nodup := by decide
  have hname : ∀ key name, Choices.nameField.Finds mixedRecord key (.str name) →
      name.toList.getLast? ≠ some '\n' := by
    intro key name hfinds
    have hfound : some ("projectName", Json.str "My App") = some (key, .str name) :=
      (FieldName.find?_eq_some_iff hmixed).mpr hfinds
    cases hfound
    decide
  have hnumber : ∀ key name, Choices.nameField.Finds flawedRecord key (.str name) →
      name.toList.getLast? ≠ some '\n' := by
    intro key name hfinds
    have hfound : some ("projectName", Json.int 3) = some (key, .str name) :=
      (FieldName.find?_eq_some_iff hflawed).mpr hfinds
    cases hfound
  have hspelled : mixedChoices.IsSpelled mixedRecord :=
    (Choices.ofFields_ok_iff_isSpelled hmixed).mp (by decide)
  have hrejected : ofFields mixedRecord = .error (.rule (.mongoNeedsMongoose .prisma)) := by
    decide
  have hreported : ofFields flawedRecord = .error (.malformed flawedIssues) := by decide
  obtain ⟨rule, hfirst, hrule⟩ := (ofFields_outcome hmixed hname).2.1 mixedChoices hspelled
    ⟨_, .mongo rfl (by decide) (by decide)⟩
  rw [hrejected] at hrule
  cases hrule
  have hunread : ∀ c : Choices, ¬ c.IsSpelled flawedRecord := by
    intro c hc
    have hread := (Choices.ofFields_ok_iff_isSpelled hflawed).mpr hc
    have herror : Choices.ofFields flawedRecord = .error flawedIssues := by decide
    rw [herror] at hread
    cases hread
  obtain ⟨issues, -, hreport, hissues⟩ := (ofFields_outcome hflawed hnumber).2.2 hunread
  rw [hreported] at hissues
  cases hissues
  exact ⟨hmixed, hspelled, hfirst, hrejected, hflawed, hreport, hreported⟩

end Blueprint

end Scaffold
