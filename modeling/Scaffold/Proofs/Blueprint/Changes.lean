import Scaffold.Proofs.Blueprint.Outcome

/-!
# Changed blueprints

Changes give a field its value under the short name or else under its own (`FieldName.given?`). A
changed blueprint is made from the record in which each field has the value that it is given, or its
old one, and which holds all foreign keys of the changes as well (`Blueprint.overlaid`,
`changedFields_eq`). So changes made one after the other amount to one change, in which the later
values stand in place of the earlier ones field by field (`Combines`), however the fields are
spelled in each. Main statement: `withChanges_composes`.
-/

namespace Scaffold

open Choices

def FieldName.given? (f : FieldName) (changes : List (String × Json)) : Option Json :=
  (f.short?.bind (List.lookup · changes)).or (changes.lookup f.name)

def Choices.IsForeign (key : String) : Prop := ∀ f ∈ fieldNames, key ∉ f.names

instance : DecidablePred Choices.IsForeign := fun key =>
  inferInstanceAs (Decidable (∀ f ∈ fieldNames, key ∉ f.names))

/-- Two keys that are the same or name the same field. -/
def Choices.Coincide (key other : String) : Prop :=
  key = other ∨ ∃ f ∈ fieldNames, key ∈ f.names ∧ other ∈ f.names

instance (key other : String) : Decidable (Choices.Coincide key other) :=
  inferInstanceAs (Decidable (key = other ∨ ∃ f ∈ fieldNames, key ∈ f.names ∧ other ∈ f.names))

namespace Blueprint

def value (b : Blueprint) (f : FieldName) : Json := (b.record.lookup f.name).getD .null

/-- The record of a blueprint with changes put in field by field, and their foreign keys behind. -/
def overlaid (b : Blueprint) (changes : List (String × Json)) : List (String × Json) :=
  fieldNames.map (fun f => (f.name, (f.given? changes).getD (b.value f))) ++
    changes.filter (IsForeign ·.1)

/-- Earlier changes that no later one touches, and the later ones. -/
def combined (earlier later : List (String × Json)) : List (String × Json) :=
  earlier.filter (fun c => ∀ key ∈ Json.keys later, ¬ Coincide c.1 key) ++ later

/-- Changes that give each field its later value, or else its earlier one. -/
structure Combines (earlier later changes : List (String × Json)) : Prop where
  given : ∀ f ∈ fieldNames, f.given? changes = (f.given? later).or (f.given? earlier)
  foreign : ∀ key, IsForeign key →
    (key ∈ Json.keys changes ↔ key ∈ Json.keys earlier ∨ key ∈ Json.keys later)

variable {b b₁ b₂ : Blueprint} {fields changes earlier later : List (String × Json)} {f : FieldName}
  {key k : String} {x : Json}

/-! ## Putting values into a record -/

theorem lookup_putField :
    (putField key x fields).lookup k = if k = key then some x else fields.lookup k := by
  induction fields with
  | nil => exact Json.lookup_cons
  | cons entry rest ih =>
    obtain ⟨k', y⟩ := entry
    unfold putField
    by_cases hkey : k' = key
    · subst hkey
      rw [if_pos rfl, Json.lookup_cons, Json.lookup_cons]
      split <;> rfl
    · rw [if_neg hkey, Json.lookup_cons, Json.lookup_cons, ih]
      by_cases hk : k = k'
      · subst hk
        rw [if_pos rfl, if_pos rfl, if_neg hkey]
      · rw [if_neg hk, if_neg hk]

theorem keys_putField : Json.keys (putField key x fields) =
    if key ∈ Json.keys fields then Json.keys fields else Json.keys fields ++ [key] := by
  induction fields with
  | nil => rfl
  | cons entry rest ih =>
    obtain ⟨k', y⟩ := entry
    unfold putField
    by_cases hkey : k' = key
    · simp [hkey]
    · have hne : ¬ key = k' := fun h => hkey h.symm
      rw [if_neg hkey, Json.keys_cons, Json.keys_cons, ih]
      simp only [List.mem_cons, hne, false_or]
      split <;> rfl

theorem nodup_putField (h : (Json.keys fields).Nodup) :
    (Json.keys (putField key x fields)).Nodup := by
  rw [keys_putField]
  split
  · exact h
  · next hno => exact (List.nodup_cons.mpr ⟨hno, h⟩).perm (List.perm_append_singleton _ _).symm

theorem filter_putField {p : String → Bool} (hp : p key = false) :
    (putField key x fields).filter (p ·.1) = fields.filter (p ·.1) := by
  induction fields with
  | nil => simp [putField, hp]
  | cons entry rest ih =>
    obtain ⟨k', y⟩ := entry
    unfold putField
    by_cases hkey : k' = key
    · simp [hkey, hp]
    · simp [hkey, List.filter_cons, ih]

theorem putField_of_mem (h : (Json.keys fields).Nodup) (hk : key ∈ Json.keys fields) :
    putField key x fields = fields.map fun e => (e.1, if e.1 = key then x else e.2) := by
  induction fields with
  | nil => cases hk
  | cons entry rest ih =>
    obtain ⟨k', y⟩ := entry
    rw [Json.keys_cons, List.nodup_cons] at h
    rw [Json.keys_cons, List.mem_cons] at hk
    unfold putField
    by_cases hkey : k' = key
    · subst hkey
      have hrest : ∀ e ∈ rest, (e.1, if e.1 = k' then x else e.2) = e := by
        intro e he
        have hne : e.1 ≠ k' := by
          rintro rfl
          exact h.1 (Json.mem_keys he)
        rw [if_neg hne]
      rw [if_pos rfl, List.map_cons, if_pos rfl, List.map_congr_left hrest, List.map_id']
    · have hin : key ∈ Json.keys rest := hk.resolve_left fun he => hkey he.symm
      rw [if_neg hkey, List.map_cons, if_neg hkey, ih h.2 hin]

theorem putField_of_not_mem (hk : key ∉ Json.keys fields) :
    putField key x fields = fields ++ [(key, x)] := by
  induction fields with
  | nil => rfl
  | cons entry rest ih =>
    obtain ⟨k', y⟩ := entry
    rw [Json.keys_cons, List.mem_cons, not_or] at hk
    have hne : ¬ k' = key := fun h => hk.1 h.symm
    rw [putField, if_neg hne, ih hk.2, List.cons_append]

/-- Values put in one after the other: those that are there are replaced, others stand behind. -/
theorem foldl_putField (hc : (Json.keys changes).Nodup) (h : (Json.keys fields).Nodup) :
    changes.foldl (fun fields (key, x) => putField key x fields) fields =
      fields.map (fun e => (e.1, (changes.lookup e.1).getD e.2)) ++
        changes.filter (fun c => c.1 ∉ Json.keys fields) := by
  induction changes generalizing fields with
  | nil => simp
  | cons change rest ih =>
    obtain ⟨key, x⟩ := change
    rw [Json.keys_cons, List.nodup_cons] at hc
    have hnone : rest.lookup key = none := Json.lookup_eq_none_iff.mpr hc.1
    rw [List.foldl_cons, ih hc.2 (nodup_putField h), keys_putField]
    by_cases hk : key ∈ Json.keys fields
    · have hvalue : ∀ e ∈ fields, (e.1, (rest.lookup e.1).getD (if e.1 = key then x else e.2)) =
          (e.1, (((key, x) :: rest).lookup e.1).getD e.2) := by
        intro e _
        rw [Json.lookup_cons]
        by_cases he : e.1 = key
        · rw [if_pos he, if_pos he, he, hnone, Option.getD_none, Option.getD_some]
        · rw [if_neg he, if_neg he]
      rw [if_pos hk, putField_of_mem h hk, List.map_map,
        List.filter_cons_of_neg (by simpa using hk)]
      exact congrArg (· ++ _) (List.map_congr_left hvalue)
    · have hvalue : ∀ e ∈ fields, (e.1, (rest.lookup e.1).getD e.2) =
          (e.1, (((key, x) :: rest).lookup e.1).getD e.2) := by
        intro e he
        have hne : ¬ e.1 = key := by
          rintro rfl
          exact hk (Json.mem_keys he)
        rw [Json.lookup_cons, if_neg hne]
      have hrest : ∀ c ∈ rest, decide (c.1 ∉ Json.keys fields ++ [key]) =
          decide (c.1 ∉ Json.keys fields) := by
        intro c hin
        have hne : c.1 ≠ key := by
          rintro rfl
          exact hc.1 (Json.mem_keys hin)
        simp [hne]
      rw [if_neg hk, putField_of_not_mem hk, List.map_append, List.map_congr_left hvalue,
        List.filter_congr hrest, List.filter_cons_of_pos (by simpa using hk), List.append_assoc]
      simp [hnone]

theorem given?_congr {more : List (String × Json)}
    (h : ∀ key ∈ f.names, fields.lookup key = more.lookup key) :
    f.given? fields = f.given? more := by
  unfold FieldName.given?
  rw [h f.name f.name_mem_names]
  cases hs : f.short? with
  | none => rfl
  | some short =>
    rw [Option.bind_some, Option.bind_some, h short (FieldName.mem_names.mpr (.inl hs))]

theorem given?_eq_none_iff :
    f.given? changes = none ↔ ∀ key ∈ f.names, key ∉ Json.keys changes := by
  unfold FieldName.given? FieldName.names
  cases f.short? with
  | none => simp [-List.lookup_eq_none_iff, Json.lookup_eq_none_iff]
  | some short => simp [-List.lookup_eq_none_iff, Json.lookup_eq_none_iff]

theorem lookup_expandShort : (expandShort changes f).lookup key =
    if key = f.name then f.given? changes else if f.short? = some key then none
      else changes.lookup key := by
  unfold expandShort FieldName.given?
  cases hs : f.short? with
  | none => by_cases hk : key = f.name <;> simp [hk]
  | some short =>
    cases hl : changes.lookup short with
    | none =>
      simp only [Option.bind_some, hl, Option.map_none, Option.none_or, Option.some.injEq]
      by_cases hk : key = f.name
      · rw [if_pos hk, hk]
      · rw [if_neg hk]
        split
        · next he => rw [← he, hl]
        · rfl
    | some x =>
      have hfilter := @Json.lookup_filter changes key (· ≠ short)
      simp only [Option.bind_some, hl, Option.map_some, Option.some_or, Option.some.injEq,
        lookup_putField]
      rw [hfilter]
      by_cases hk : key = f.name
      · rw [if_pos hk, if_pos hk]
      · rw [if_neg hk, if_neg hk]
        by_cases he : short = key
        · simp [he]
        · have hne : ¬ key = short := fun h => he h.symm
          simp [he, hne]

theorem nodup_expandShort (h : (Json.keys changes).Nodup) :
    (Json.keys (expandShort changes f)).Nodup := by
  unfold expandShort
  split
  · exact h
  · exact nodup_putField (Json.nodup_filter h)

theorem filter_expandShort {p : String → Bool} (hp : ∀ key ∈ f.names, p key = false) :
    (expandShort changes f).filter (p ·.1) = changes.filter (p ·.1) := by
  unfold expandShort
  split
  · rfl
  · next short x hsome =>
    obtain ⟨s, hs, hl⟩ := Option.bind_eq_some_iff.mp hsome
    obtain ⟨y, -, hy⟩ := Option.map_eq_some_iff.mp hl
    cases hy
    rw [filter_putField (hp _ f.name_mem_names), List.filter_filter]
    refine List.filter_congr fun c _ => ?_
    by_cases hc : c.1 = short
    · have hno : p short = false := hp short (FieldName.mem_names.mpr (.inl hs))
      simp [hc, hno]
    · simp [hc]

/-- What is left of changes when all names of some fields are expanded. -/
theorem lookup_foldl_expandShort {fs : List FieldName}
    (hd : fs.Pairwise fun f g => ∀ key ∈ f.names, key ∉ g.names) :
    (∀ f ∈ fs, (fs.foldl expandShort changes).lookup f.name = f.given? changes) ∧
      (∀ f ∈ fs, ∀ short, f.short? = some short → short ≠ f.name →
        (fs.foldl expandShort changes).lookup short = none) ∧
      ∀ key, (∀ f ∈ fs, key ∉ f.names) →
        (fs.foldl expandShort changes).lookup key = changes.lookup key := by
  induction fs generalizing changes with
  | nil => exact ⟨nofun, nofun, fun _ _ => rfl⟩
  | cons g rest ih =>
    rw [List.pairwise_cons] at hd
    obtain ⟨hname, hshort, hother⟩ := @ih (expandShort changes g) hd.2
    have hkeep : ∀ key, key ∉ g.names →
        (expandShort changes g).lookup key = changes.lookup key := by
      intro key hk
      rw [FieldName.mem_names, not_or] at hk
      rw [lookup_expandShort, if_neg hk.2, if_neg hk.1]
    have hfree : ∀ key ∈ g.names, ∀ f ∈ rest, key ∉ f.names := fun key hk f hf => hd.1 f hf key hk
    have hg : ∀ key ∈ g.names, (rest.foldl expandShort (expandShort changes g)).lookup key =
        (expandShort changes g).lookup key := fun key hk => hother key (hfree key hk)
    refine ⟨fun f hf => ?_, fun f hf short hs hne => ?_, fun key hk => ?_⟩
    · rcases List.mem_cons.mp hf with rfl | hf
      · rw [List.foldl_cons, hg _ f.name_mem_names, lookup_expandShort, if_pos rfl]
      · have hnot : ∀ key ∈ f.names, key ∉ g.names := fun key hkf hkg => hd.1 f hf key hkg hkf
        rw [List.foldl_cons, hname f hf, given?_congr fun key hk => hkeep key (hnot key hk)]
    · rcases List.mem_cons.mp hf with rfl | hf
      · have hin : short ∈ f.names := FieldName.mem_names.mpr (.inl hs)
        rw [List.foldl_cons, hg _ hin, lookup_expandShort, if_neg hne, if_pos hs]
      · exact hshort f hf short hs hne
    · rw [List.forall_mem_cons] at hk
      rw [List.foldl_cons, hother key hk.2, hkeep key hk.1]

theorem nodup_foldl_expandShort {fs : List FieldName} (h : (Json.keys changes).Nodup) :
    (Json.keys (fs.foldl expandShort changes)).Nodup := by
  induction fs generalizing changes with
  | nil => exact h
  | cons g rest ih => exact ih (nodup_expandShort h)

theorem filter_foldl_expandShort {fs : List FieldName} {p : String → Bool}
    (hp : ∀ f ∈ fs, ∀ key ∈ f.names, p key = false) :
    (fs.foldl expandShort changes).filter (p ·.1) = changes.filter (p ·.1) := by
  induction fs generalizing changes with
  | nil => rfl
  | cons g rest ih =>
    rw [List.forall_mem_cons] at hp
    rw [List.foldl_cons, ih hp.2, filter_expandShort hp.1]

theorem record_eq (b : Blueprint) : b.record = fieldNames.map fun f => (f.name, b.value f) := rfl

theorem keys_record (b : Blueprint) : Json.keys b.record = fieldNames.map (·.name) := rfl

theorem changedFields_eq (h : (Json.keys changes).Nodup) :
    b.changedFields changes = b.overlaid changes := by
  obtain ⟨hname, hshort, -⟩ := @lookup_foldl_expandShort changes _ names_disjoint
  have hforeign : ∀ f ∈ fieldNames, ∀ key ∈ f.names, decide (IsForeign key) = false :=
    fun f hf key hk => decide_eq_false fun hno => hno f hf hk
  -- after the expansion a key that no field has as its own name is foreign
  have hbehind : (fieldNames.foldl expandShort changes).filter (fun c => c.1 ∉ Json.keys b.record) =
      changes.filter (IsForeign ·.1) := by
    rw [← filter_foldl_expandShort hforeign]
    refine List.filter_congr fun c hc => decide_eq_decide.mpr ?_
    have hin : c.1 ∈ Json.keys (fieldNames.foldl expandShort changes) := Json.mem_keys hc
    rw [keys_record, List.mem_map]
    constructor
    · intro hno f hf hk
      rcases FieldName.mem_names.mp hk with hs | hn
      · exact Json.lookup_eq_none_iff.mp (hshort f hf c.1 hs (short_ne_name hf hs)) hin
      · exact hno ⟨f, hf, hn.symm⟩
    · rintro hno ⟨f, hf, hn⟩
      exact hno f hf (hn ▸ f.name_mem_names)
  have hfields : b.record.map (fun e => (e.1,
      ((fieldNames.foldl expandShort changes).lookup e.1).getD e.2)) =
      fieldNames.map (fun f => (f.name, (f.given? changes).getD (b.value f))) := by
    rw [record_eq, List.map_map]
    refine List.map_congr_left fun f hf => ?_
    simp only [Function.comp_apply, hname f hf]
  have hrecord : (Json.keys b.record).Nodup := by
    rw [keys_record]
    decide
  change (fieldNames.foldl expandShort changes).foldl (fun fields (key, x) => putField key x fields)
    b.record = _
  rw [foldl_putField (nodup_foldl_expandShort h) hrecord, hfields, hbehind, overlaid]

theorem nodup_overlaid (h : (Json.keys changes).Nodup) :
    (Json.keys (b.overlaid changes)).Nodup := by
  have hnames : (fieldNames.map (·.name)).Nodup := by decide
  have hkeys : Json.keys (b.overlaid changes) =
      fieldNames.map (·.name) ++ Json.keys (changes.filter (IsForeign ·.1)) := Json.keys_append
  rw [hkeys, List.nodup_append]
  refine ⟨hnames, Json.nodup_filter h, ?_⟩
  rintro key hk _ hin rfl
  obtain ⟨f, hf, rfl⟩ := List.mem_map.mp hk
  have hforeign : IsForeign f.name := (Json.mem_keys_filter.mp hin).2
  exact hforeign f hf f.name_mem_names

theorem mem_keys_overlaid (h : IsForeign key) (hk : key ∈ Json.keys changes) :
    key ∈ Json.keys (b.overlaid changes) := by
  rw [overlaid, Json.keys_append, List.mem_append]
  exact .inr (Json.mem_keys_filter.mpr ⟨hk, h⟩)

/-- The record does not depend on how the fields are spelled. -/
theorem overlaid_congr {more : List (String × Json)}
    (hvalue : ∀ f ∈ fieldNames,
      (f.given? changes).getD (b.value f) = (f.given? more).getD (b₁.value f))
    (hforeign : changes.filter (IsForeign ·.1) = more.filter (IsForeign ·.1)) :
    b.overlaid changes = b₁.overlaid more := by
  have hfields : ∀ f ∈ fieldNames, (f.name, (f.given? changes).getD (b.value f)) =
      (f.name, (f.given? more).getD (b₁.value f)) := fun f hf => by rw [hvalue f hf]
  rw [overlaid, overlaid, List.map_congr_left hfields, hforeign]

/-! ## Changed blueprints -/

theorem withChanges_eq (h : (Json.keys changes).Nodup) :
    b.withChanges changes = ofFields (b.overlaid changes) := by
  rw [withChanges, changedFields_eq h]

theorem withChanges_nil : b.withChanges [] = .ok b := b.remade

theorem givenOnce_value (h : b.choices.IsSpelled fields) (hf : f ∈ fieldNames) :
    f.GivenOnce fields (b.value f) := by
  have hall : ∀ f ∈ fieldNames, f.GivenOnce fields (b.value f) := by
    simp only [fieldNames, List.forall_mem_cons]
    exact ⟨h.name, h.language, h.importStyle, h.database, h.orm, h.target, List.forall_mem_nil _⟩
  exact hall f hf

/-- A changed blueprint has the given values, and its old ones in the other fields. -/
theorem value_of_withChanges (h : (Json.keys changes).Nodup)
    (hmade : b.withChanges changes = .ok b₁)
    (hf : f ∈ fieldNames) : b₁.value f = (f.given? changes).getD (b.value f) := by
  rw [withChanges_eq h] at hmade
  have hspelled := (ofFields_ok_iff_isSpelled (nodup_overlaid h)).mp (choices_of_ofFields hmade)
  obtain ⟨key, -, hin, honly⟩ := givenOnce_value hspelled hf
  have hown : (f.name, (f.given? changes).getD (b.value f)) ∈ b.overlaid changes :=
    List.mem_append_left _ (List.mem_map.mpr ⟨f, hf, rfl⟩)
  have hkey : f.name = key := honly f.name f.name_mem_names (Json.mem_keys hown)
  rw [← hkey] at hin
  have hfound := (Json.lookup_eq_some_iff (nodup_overlaid h)).mpr hin
  rw [(Json.lookup_eq_some_iff (nodup_overlaid h)).mpr hown] at hfound
  exact (Option.some.inj hfound).symm

/-- Changes with a foreign key are refused, and the key is reported. -/
theorem withChanges_of_foreign (h : (Json.keys changes).Nodup) (hforeign : IsForeign key)
    (hk : key ∈ Json.keys changes) : ∃ issues, b.withChanges changes = .error (.malformed issues) ∧
      ⟨some key, .unexpected⟩ ∈ issues := by
  rw [withChanges_eq h]
  have hin : key ∈ Json.keys (b.overlaid changes) := mem_keys_overlaid hforeign hk
  cases hc : Choices.ofFields (b.overlaid changes) with
  | ok c =>
    obtain ⟨f, hf, hkf⟩ := ((ofFields_ok_iff_isSpelled (nodup_overlaid h)).mp hc).known key hin
    exact absurd hkf (hforeign f hf)
  | error issues =>
    refine ⟨issues, ofFields_of_error hc, ?_⟩
    rw [ofFields_error hc]
    have hother := (mem_others_iff (nodup_overlaid h) hin).mpr (.inl hforeign)
    exact List.mem_append_right _ (List.mem_map.mpr ⟨key, hother, rfl⟩)

theorem filter_foreign_eq_nil_iff :
    changes.filter (IsForeign ·.1) = [] ↔ ∀ key ∈ Json.keys changes, ¬ IsForeign key := by
  constructor
  · intro hnil key hk hforeign
    have hin : key ∈ Json.keys (changes.filter (IsForeign ·.1)) :=
      Json.mem_keys_filter.mpr ⟨hk, hforeign⟩
    rw [hnil] at hin
    cases hin
  · intro hno
    refine List.filter_eq_nil_iff.mpr fun c hc hforeign => ?_
    exact hno c.1 (Json.mem_keys hc) (of_decide_eq_true hforeign)

theorem no_foreign_of_withChanges (h : (Json.keys changes).Nodup)
    (hmade : b.withChanges changes = .ok b₁) : ∀ key ∈ Json.keys changes, ¬ IsForeign key := by
  intro key hk hforeign
  obtain ⟨issues, hissues, -⟩ := withChanges_of_foreign (b := b) h hforeign hk
  rw [hmade] at hissues
  cases hissues

/-! ## Combined changes -/

theorem mem_keys_untouched :
    key ∈ Json.keys (earlier.filter fun c => ∀ other ∈ Json.keys later, ¬ Coincide c.1 other) ↔
      key ∈ Json.keys earlier ∧ ∀ other ∈ Json.keys later, ¬ Coincide key other :=
  @Json.mem_keys_filter earlier key (fun k => ∀ other ∈ Json.keys later, ¬ Coincide k other) _

theorem lookup_combined : (combined earlier later).lookup key =
    (if ∀ other ∈ Json.keys later, ¬ Coincide key other then earlier.lookup key else none).or
      (later.lookup key) := by
  have hfilter := @Json.lookup_filter earlier key
    fun k => decide (∀ other ∈ Json.keys later, ¬ Coincide k other)
  rw [combined, List.lookup_append, hfilter]
  simp only [decide_eq_true_eq]

theorem combines_combined : Combines earlier later (combined earlier later) where
  given f hf := by
    cases hlater : f.given? later with
    | none =>
      rw [given?_eq_none_iff] at hlater
      rw [Option.none_or]
      refine given?_congr fun key hk => ?_
      have hfree : ∀ other ∈ Json.keys later, ¬ Coincide key other := by
        rintro other ho (rfl | ⟨g, hg, hkg, hog⟩)
        · exact hlater key hk ho
        · obtain rfl := eq_of_mem_names hf hg hk hkg
          exact hlater other hog ho
      rw [lookup_combined, if_pos hfree, Json.lookup_eq_none_iff.mpr (hlater key hk),
        Option.or_none]
    | some x =>
      have hsome : ¬ ∀ key ∈ f.names, key ∉ Json.keys later := by
        rw [← given?_eq_none_iff, hlater]
        nofun
      push Not at hsome
      obtain ⟨other, hother, hin⟩ := hsome
      rw [Option.some_or, ← hlater]
      refine given?_congr fun key hk => ?_
      have htouched : ¬ ∀ other ∈ Json.keys later, ¬ Coincide key other :=
        fun hno => hno other hin (.inr ⟨f, hf, hk, hother⟩)
      rw [lookup_combined, if_neg htouched, Option.none_or]
  foreign key hforeign := by
    have hkeys : ∀ {fields : List (String × Json)}, key ∈ Json.keys fields ↔
        fields.lookup key ≠ none := by
      intro fields
      rw [ne_eq, Json.lookup_eq_none_iff, not_not]
    rw [hkeys, hkeys, hkeys, lookup_combined, ne_eq, Option.or_eq_none_iff]
    split
    · tauto
    · next htouched =>
      push Not at htouched
      obtain ⟨other, hin, rfl | ⟨f, hf, hkf, -⟩⟩ := htouched
      · have hsome := hkeys.mp hin
        tauto
      · exact absurd hkf (hforeign f hf)

theorem nodup_combined (h₁ : (Json.keys earlier).Nodup) (h₂ : (Json.keys later).Nodup) :
    (Json.keys (combined earlier later)).Nodup := by
  rw [combined, Json.keys_append, List.nodup_append]
  refine ⟨Json.nodup_filter h₁, h₂, ?_⟩
  rintro key hk _ hin rfl
  have hfree := (mem_keys_untouched.mp hk).2
  exact hfree key hin (.inl rfl)

section

variable (h₁ : (Json.keys earlier).Nodup) (hmade : b.withChanges earlier = .ok b₁)

include h₁ hmade

theorem Combines.getD_value (h : Combines earlier later changes) (hf : f ∈ fieldNames) :
    (f.given? later).getD (b₁.value f) = (f.given? changes).getD (b.value f) := by
  rw [h.given f hf, value_of_withChanges h₁ hmade hf]
  cases f.given? later with
  | none => rw [Option.none_or, Option.getD_none]
  | some x => rfl

/-- Later changes make of a changed blueprint what the combined ones make of the first. -/
theorem withChanges_combined (h₂ : (Json.keys later).Nodup) :
    b₁.withChanges later = b.withChanges (combined earlier later) := by
  have hno := no_foreign_of_withChanges h₁ hmade
  have hforeign :
      later.filter (IsForeign ·.1) = (combined earlier later).filter (IsForeign ·.1) := by
    have hnil : (earlier.filter fun c => ∀ key ∈ Json.keys later, ¬ Coincide c.1 key).filter
        (IsForeign ·.1) = [] := by
      exact filter_foreign_eq_nil_iff.mpr fun key hk => hno key (mem_keys_untouched.mp hk).1
    rw [combined, List.filter_append, hnil, List.nil_append]
  rw [withChanges_eq h₂, withChanges_eq (nodup_combined h₁ h₂)]
  exact congrArg ofFields
    (overlaid_congr (fun f hf => combines_combined.getD_value h₁ hmade hf) hforeign)

/-- Whichever way combined changes are spelled, they make the same blueprint. -/
theorem Combines.withChanges_iff (h : Combines earlier later changes)
    (h₂ : (Json.keys later).Nodup) (hc : (Json.keys changes).Nodup) :
    b₁.withChanges later = .ok b₂ ↔ b.withChanges changes = .ok b₂ := by
  have hno := no_foreign_of_withChanges h₁ hmade
  have hsame (hlater : ∀ key ∈ Json.keys later, ¬ IsForeign key)
      (hchanges : ∀ key ∈ Json.keys changes, ¬ IsForeign key) :
      b₁.withChanges later = b.withChanges changes := by
    have hforeign : later.filter (IsForeign ·.1) = changes.filter (IsForeign ·.1) := by
      rw [filter_foreign_eq_nil_iff.mpr hlater, filter_foreign_eq_nil_iff.mpr hchanges]
    rw [withChanges_eq h₂, withChanges_eq hc]
    exact congrArg ofFields (overlaid_congr (fun f hf => h.getD_value h₁ hmade hf) hforeign)
  constructor
  · intro hlast
    have hlater := no_foreign_of_withChanges h₂ hlast
    rw [← hsame hlater fun key hk hf =>
      ((h.foreign key hf).mp hk).elim (hno key · hf) (hlater key · hf)]
    exact hlast
  · intro hlast
    have hchanges := no_foreign_of_withChanges hc hlast
    rw [hsame (fun key hk hf => hchanges key ((h.foreign key hf).mpr (.inr hk)) hf) hchanges]
    exact hlast

end

/-- **Changes compose.** Changes with different keys make of a blueprint what its record makes when
they are put in field by field, and without changes a blueprint stays the same. Changes with a
foreign key are refused. If some changes are accepted, each field has the value given or its old
one, and later changes of the changed blueprint have the outcome of the two combined, down to the
issues of a refusal; in whichever way the fields are then spelled, the same blueprint comes of it.
The blueprint that is changed is a value and stays what it is. -/
theorem withChanges_composes (b : Blueprint) (h₁ : (Json.keys earlier).Nodup)
    (h₂ : (Json.keys later).Nodup) :
    b.withChanges [] = .ok b ∧
      b.withChanges earlier = ofFields (b.overlaid earlier) ∧
      (∀ key ∈ Json.keys earlier, IsForeign key → ∃ issues,
        b.withChanges earlier = .error (.malformed issues) ∧ ⟨some key, .unexpected⟩ ∈ issues) ∧
      ∀ b₁, b.withChanges earlier = .ok b₁ →
        (∀ f ∈ fieldNames, b₁.value f = (f.given? earlier).getD (b.value f)) ∧
        Combines earlier later (combined earlier later) ∧
        b₁.withChanges later = b.withChanges (combined earlier later) ∧
        ∀ changes, (Json.keys changes).Nodup → Combines earlier later changes →
          ∀ b₂, b₁.withChanges later = .ok b₂ ↔ b.withChanges changes = .ok b₂ := by
  refine ⟨withChanges_nil, withChanges_eq h₁,
    fun key hk hforeign => withChanges_of_foreign h₁ hforeign hk, fun b₁ hmade => ?_⟩
  refine ⟨fun f hf => value_of_withChanges h₁ hmade hf, combines_combined,
    withChanges_combined h₁ hmade h₂, fun changes hc hcombines b₂ => ?_⟩
  exact hcombines.withChanges_iff h₁ hmade h₂ hc

def firstBlueprint : Blueprint :=
  ⟨⟨"app", .typescript, .esm, .mongo, .mongoose, "/srv/app"⟩, by decide⟩

def otherName : List (String × Json) := [("projectName", .str "web"), ("orm", .str "none")]

def otherPlace : List (String × Json) :=
  [("database", .str "sqlite"), ("project_name", .str "api"), ("targetPath", .str "/srv/api")]

theorem withChanges_composes_of_two_spellings :
    (Json.keys otherName).Nodup ∧ (Json.keys otherPlace).Nodup ∧
      ∃ b₁ b₂, firstBlueprint.withChanges otherName = .ok b₁ ∧ b₁.withChanges otherPlace = .ok b₂ ∧
        b₁.choices = ⟨"web", .typescript, .esm, .mongo, .absent, "/srv/app"⟩ ∧
        b₂.choices = ⟨"api", .typescript, .esm, .sqlite, .absent, "/srv/api"⟩ ∧
        firstBlueprint.withChanges (("orm", .str "none") :: otherPlace) = .ok b₂ := by
  have h₁ : (Json.keys otherName).Nodup := by decide
  have h₂ : (Json.keys otherPlace).Nodup := by decide
  let b₁ : Blueprint := ⟨⟨"web", .typescript, .esm, .mongo, .absent, "/srv/app"⟩, by decide⟩
  let b₂ : Blueprint := ⟨⟨"api", .typescript, .esm, .sqlite, .absent, "/srv/api"⟩, by decide⟩
  have hmade : firstBlueprint.withChanges otherName = .ok b₁ := by decide
  have hboth : combined otherName otherPlace = ("orm", .str "none") :: otherPlace := rfl
  have hlast : firstBlueprint.withChanges (("orm", .str "none") :: otherPlace) = .ok b₂ := by
    decide
  have hsame := ((withChanges_composes firstBlueprint h₁ h₂).2.2.2 b₁ hmade).2.2.1
  rw [hboth, hlast] at hsame
  exact ⟨h₁, h₂, b₁, b₂, hmade, hsame, rfl, rfl, hlast⟩

end Blueprint

end Scaffold
