import Mathlib.Data.List.Nodup
import Mathlib.Data.List.Pairwise
import Scaffold.Proofs.Blueprint.Record

/-!
# Fields under their names

A record whose keys differ holds at most one value under each (`Json.lookup_eq_some_iff`). In such a
record a field is found under its short name, or else under its own (`FieldName.Finds`,
`FieldName.find?_eq_some_iff`), and the words of a choice are the values that are read as its
answers (`Choices.word_eq_ok_iff`).
-/

namespace Scaffold

def Json.keys (fields : List (String × Json)) : List String := fields.map (·.1)

namespace FieldName

def names (f : FieldName) : List String := f.short?.toList ++ [f.name]

/-- A field is found under its short name, or under its own if the short one is not there. -/
def Finds (f : FieldName) (fields : List (String × Json)) (key : String) (x : Json) : Prop :=
  (key, x) ∈ fields ∧
    (f.short? = some key ∨
      (key = f.name ∧ ∀ short, f.short? = some short → short ∉ Json.keys fields))

end FieldName

variable {fields : List (String × Json)} {f g : FieldName} {key : String} {x : Json}

namespace Json

theorem mem_keys_iff : key ∈ keys fields ↔ ∃ x, (key, x) ∈ fields := by simp [keys]

theorem mem_keys (h : (key, x) ∈ fields) : key ∈ keys fields := mem_keys_iff.mpr ⟨x, h⟩

@[simp] theorem keys_cons {k : String} : keys ((k, x) :: fields) = k :: keys fields := rfl

@[simp] theorem keys_append {more : List (String × Json)} :
    keys (fields ++ more) = keys fields ++ keys more := List.map_append

theorem lookup_cons {k : String} :
    ((k, x) :: fields).lookup key = if key = k then some x else fields.lookup key := by
  rw [List.lookup_cons]
  by_cases hk : key = k
  · simp [hk]
  · have hb : (key == k) = false := by simpa using hk
    simp [hk, hb]

theorem lookup_eq_some_iff (h : (keys fields).Nodup) :
    fields.lookup key = some x ↔ (key, x) ∈ fields := by
  induction fields with
  | nil => simp
  | cons entry rest ih =>
    obtain ⟨k, y⟩ := entry
    rw [keys_cons, List.nodup_cons] at h
    rw [lookup_cons]
    by_cases hk : key = k
    · subst hk
      have hno : (key, x) ∉ rest := fun hin => h.1 (mem_keys hin)
      simp [hno, eq_comm]
    · simp [hk, ih h.2]

theorem lookup_eq_none_iff : fields.lookup key = none ↔ key ∉ keys fields := by
  rw [List.lookup_eq_none_iff, mem_keys_iff]
  constructor
  · rintro h ⟨x, hx⟩
    simpa using h (key, x) hx
  · rintro h ⟨k, x⟩ hx
    have hne : key ≠ k := by
      rintro rfl
      exact h ⟨x, hx⟩
    simpa using hne

theorem lookup_filter {p : String → Bool} :
    (fields.filter (p ·.1)).lookup key = if p key then fields.lookup key else none := by
  induction fields with
  | nil => split <;> rfl
  | cons entry rest ih =>
    obtain ⟨k, y⟩ := entry
    rw [List.filter_cons, Json.lookup_cons]
    by_cases hp : p k
    · rw [if_pos hp, Json.lookup_cons, ih]
      by_cases hk : key = k
      · subst hk
        rw [if_pos rfl, if_pos hp, if_pos rfl]
      · rw [if_neg hk, if_neg hk]
    · rw [if_neg hp, ih]
      by_cases hk : key = k
      · subst hk
        rw [if_neg hp, if_neg hp]
      · rw [if_neg hk]

theorem nodup_filter {p : String × Json → Bool} (h : (keys fields).Nodup) :
    (keys (fields.filter p)).Nodup := h.sublist (List.filter_sublist.map _)

theorem mem_keys_filter {p : String → Prop} [DecidablePred p] :
    key ∈ keys (fields.filter fun c => p c.1) ↔ key ∈ keys fields ∧ p key := by
  simp [mem_keys_iff]

theorem keys_reverse : keys fields.reverse = (keys fields).reverse := List.map_reverse

theorem lastField?_eq_some_iff (h : (keys fields).Nodup) :
    lastField? key fields = some x ↔ (key, x) ∈ fields := by
  rw [lastField?, lookup_eq_some_iff, List.mem_reverse]
  rwa [keys_reverse, List.nodup_reverse]

theorem lastField?_eq_none_iff : lastField? key fields = none ↔ key ∉ keys fields := by
  rw [lastField?, lookup_eq_none_iff, keys_reverse, List.mem_reverse]

end Json

namespace FieldName

theorem mem_names : key ∈ f.names ↔ f.short? = some key ∨ key = f.name := by
  simp [names]

theorem name_mem_names (f : FieldName) : f.name ∈ f.names := mem_names.mpr (.inr rfl)

theorem Finds.mem_names (h : f.Finds fields key x) : key ∈ f.names :=
  FieldName.mem_names.mpr (h.2.imp_right And.left)

theorem find?_eq_none_iff : f.find? fields = none ↔ ∀ key ∈ f.names, key ∉ Json.keys fields := by
  unfold find? names
  cases f.short? with
  | none => simp [Json.lastField?_eq_none_iff]
  | some short => simp [Json.lastField?_eq_none_iff]

theorem find?_eq_some_iff (h : (Json.keys fields).Nodup) :
    f.find? fields = some (key, x) ↔ f.Finds fields key x := by
  unfold find? Finds
  cases f.short? with
  | none =>
    simp only [Option.map_eq_some_iff, Prod.mk.injEq, Json.lastField?_eq_some_iff h]
    constructor
    · rintro ⟨y, hy, rfl, rfl⟩
      exact ⟨hy, .inr ⟨rfl, nofun⟩⟩
    · rintro ⟨hin, hno | ⟨rfl, -⟩⟩
      · cases hno
      · exact ⟨x, hin, rfl, rfl⟩
  | some short =>
    simp only [Option.or_eq_some_iff, Option.map_eq_some_iff, Option.map_eq_none_iff, Prod.mk.injEq,
      Json.lastField?_eq_some_iff h, Json.lastField?_eq_none_iff, Option.some.injEq]
    constructor
    · rintro (⟨y, hy, rfl, rfl⟩ | ⟨hno, y, hy, rfl, rfl⟩)
      · exact ⟨hy, .inl rfl⟩
      · refine ⟨hy, .inr ⟨rfl, ?_⟩⟩
        rintro _ rfl
        exact hno
    · rintro ⟨hin, rfl | ⟨rfl, hno⟩⟩
      · exact .inl ⟨x, hin, rfl, rfl⟩
      · exact .inr ⟨hno short rfl, x, hin, rfl, rfl⟩

end FieldName

/-! ## The six fields -/

namespace Choices

theorem names_disjoint : fieldNames.Pairwise fun f g => ∀ key ∈ f.names, key ∉ g.names := by
  decide

theorem eq_of_mem_names (hf : f ∈ fieldNames) (hg : g ∈ fieldNames) (hkf : key ∈ f.names)
    (hkg : key ∈ g.names) : f = g := by
  have hshared : fieldNames.Pairwise fun f g => (∃ key ∈ f.names, key ∈ g.names) → f = g :=
    names_disjoint.imp fun hd ⟨k, hkf, hkg⟩ => absurd hkg (hd k hkf)
  have hsymm : Std.Symm fun f g : FieldName => (∃ key ∈ f.names, key ∈ g.names) → f = g :=
    ⟨fun f g h ⟨k, hkg, hkf⟩ => (h ⟨k, hkf, hkg⟩).symm⟩
  exact hshared.forall_of_forall (fun _ _ _ => rfl) hf hg ⟨key, hkf, hkg⟩

theorem short_ne_name (hf : f ∈ fieldNames) {short : String} (hs : f.short? = some short) :
    short ≠ f.name := by
  have hall : ∀ f ∈ fieldNames, f.short? ≠ some f.name := by decide
  rintro rfl
  exact hall f hf hs

theorem text_eq_ok_iff {s : String} : Json.text x = .ok s ↔ x = .str s := by
  cases x <;> simp [Json.text]

theorem word_eq_ok_iff {α : Type} [Choice α]
    (hall : ∀ a : α, Choice.ofWord? (Choice.word a) = some a)
    {a : α} : word α x = .ok a ↔ x = .str (Choice.word a) := by
  constructor
  · intro h
    cases x with
    | str s =>
      have hw : Choice.ofWord? s = some a := by
        unfold word at h
        split at h
        · next b hb => cases h; exact hb
        · cases h
      have hs : Choice.word a = s := by simpa using List.find?_some hw
      rw [hs]
    | _ => cases h
  · rintro rfl
    exact word_of_choice (hall a)

end Choices

end Scaffold
