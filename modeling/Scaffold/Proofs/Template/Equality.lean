import Mathlib.Data.Finset.Dedup
import Mathlib.Data.List.Lattice
import Mathlib.Data.List.Perm.Subperm
import Scaffold.Proofs.Blueprint.Fields
import Scaffold.Template.Helper

/-!
# Equality in templates

Two JSON values are equal for templates if every path into one ends at what the same path into the
other ends at (`Json.view`), where numbers show their exact value, lists their length and objects
the set of their keys (`Json.same_ofJson_iff`). As equality of views it is an equivalence that knows
no order of fields; the helpers add that a truth value by itself equals nothing but truth values
(`Helper.answer_equivalence`).
-/

namespace Scaffold.Json

open Number Template

inductive Step where
  | index (i : Nat)
  | key (k : String)

/-- What a value shows while its parts are not looked at. -/
inductive Face where
  | null
  | number (e : Extended)
  | text (s : String)
  | list (length : Nat)
  | object (keys : Finset String)

/-- Truth values count as one and zero. -/
def face : Json → Face
  | null => .null
  | bool b => .number (.ofInt (if b then 1 else 0))
  | int n => .number (.ofInt n)
  | float x => .number (.ofBinary64 x)
  | str s => .text s
  | arr xs => .list xs.length
  | obj fs => .object (keys fs).toFinset

def part? : Json → Step → Option Json
  | arr xs, .index i => xs[i]?
  | obj fs, .key k => fs.lookup k
  | _, _ => none

/-- What a path into a value ends at, if it can be walked. -/
def view : Json → List Step → Option Face
  | x, [] => some x.face
  | x, s :: path => (x.part? s).bind fun y => y.view path

def isBool : Json → Bool
  | bool _ => true
  | _ => false

/-- The same along every path, and both or neither a truth value. -/
def Alike (x y : Json) : Prop := x.isBool = y.isBool ∧ x.view = y.view

mutual

/-- No double in it is no number, and no object in it has a key twice. -/
def IsProper : Json → Prop
  | float x => x ≠ .nan
  | arr xs => AreProper xs
  | obj fs => (keys fs).Nodup ∧ AreProperFields fs
  | _ => True

def AreProper : List Json → Prop
  | [] => True
  | x :: xs => IsProper x ∧ AreProper xs

def AreProperFields : List (String × Json) → Prop
  | [] => True
  | (_, x) :: fs => IsProper x ∧ AreProperFields fs

end

/-- A value with other orders of fields, in itself or anywhere inside. -/
inductive Reordered : Json → Json → Prop where
  | refl (x : Json) : Reordered x x
  | fields {fs gs : List (String × Json)} : fs.Perm gs → Reordered (obj fs) (obj gs)
  | item (before after : List Json) {x y : Json} : Reordered x y →
      Reordered (arr (before ++ x :: after)) (arr (before ++ y :: after))
  | field (before after : List (String × Json)) (k : String) {x y : Json} : Reordered x y →
      Reordered (obj (before ++ (k, x) :: after)) (obj (before ++ (k, y) :: after))
  | trans {x y z : Json} : Reordered x y → Reordered y z → Reordered x z

variable {x y z : Json} {xs ys : List Json} {fs gs : List (String × Json)} {a b : Extended}

theorem areProper_iff : AreProper xs ↔ ∀ x ∈ xs, x.IsProper := by
  induction xs with
  | nil => simp [AreProper]
  | cons x xs ih => rw [AreProper, ih, List.forall_mem_cons]

theorem areProperFields_iff : AreProperFields fs ↔ ∀ f ∈ fs, f.2.IsProper := by
  induction fs with
  | nil => simp [AreProperFields]
  | cons f fs ih => rw [AreProperFields, ih, List.forall_mem_cons]

/-! ## Views -/

theorem view_eq_iff :
    x.view = y.view ↔ x.face = y.face ∧ ∀ s, (x.part? s).map view = (y.part? s).map view := by
  constructor
  · intro h
    refine ⟨Option.some.inj (congrFun h []), fun s => ?_⟩
    have hs : ∀ path, (x.part? s).bind (·.view path) = (y.part? s).bind (·.view path) :=
      fun path => congrFun h (s :: path)
    cases hx : x.part? s with
    | none =>
      -- a part that is there shows at least its face
      cases hy : y.part? s with
      | none => rfl
      | some v => simpa [hx, hy, view] using hs []
    | some u =>
      cases hy : y.part? s with
      | none => simpa [hx, hy, view] using hs []
      | some v => exact congrArg some (funext fun path => by simpa [hx, hy] using hs path)
  · rintro ⟨hface, hparts⟩
    funext path
    cases path with
    | nil => exact congrArg some hface
    | cons s path =>
      have hs : ((x.part? s).map view).bind (· path) = ((y.part? s).map view).bind (· path) := by
        rw [hparts s]
      simpa [view, Option.bind_map, Function.comp_def] using hs

theorem view_arr_iff : (arr xs).view = (arr ys).view ↔ xs.map view = ys.map view := by
  rw [view_eq_iff]
  constructor
  · rintro ⟨-, hparts⟩
    refine List.ext_getElem? fun i => ?_
    rw [List.getElem?_map, List.getElem?_map]
    exact hparts (.index i)
  · intro h
    have hlength : xs.length = ys.length := by simpa using congrArg List.length h
    refine ⟨congrArg Face.list hlength, fun s => ?_⟩
    cases s with
    | key k => rfl
    | index i =>
      have hi := congrArg (·[i]?) h
      rwa [List.getElem?_map, List.getElem?_map] at hi

theorem mem_keys_iff_of_lookup {k : String}
    (h : (fs.lookup k).map view = (gs.lookup k).map view) : k ∈ keys fs ↔ k ∈ keys gs := by
  have hnone : (fs.lookup k) = none ↔ (gs.lookup k) = none := by
    rw [← Option.map_eq_none_iff (f := view), h, Option.map_eq_none_iff]
  rw [lookup_eq_none_iff, lookup_eq_none_iff] at hnone
  exact not_iff_not.mp hnone

theorem view_obj_iff :
    (obj fs).view = (obj gs).view ↔ ∀ k, (fs.lookup k).map view = (gs.lookup k).map view := by
  rw [view_eq_iff]
  constructor
  · rintro ⟨-, hparts⟩ k
    exact hparts (.key k)
  · intro h
    refine ⟨congrArg Face.object ?_, fun s => ?_⟩
    · ext k
      rw [List.mem_toFinset, List.mem_toFinset, mem_keys_iff_of_lookup (h k)]
    · cases s with
      | index i => rfl
      | key k => exact h k

/-! ## Equality of values -/

theorem ofBinary64_ne_nan {d : Binary64} (h : d ≠ .nan) : Extended.ofBinary64 d ≠ .nan := by
  cases d with
  | finite negative m e => simp [Extended.ofBinary64, Binary64.value?]
  | infinite negative => simp [Extended.ofBinary64]
  | nan => exact absurd rfl h

theorem extended_same_iff (ha : a ≠ .nan) : a.same b = true ↔ a = b := by
  cases a with
  | nan => exact absurd rfl ha
  | finite q => cases b <;> simp [Extended.same]
  | infinite negative => cases b <;> simp [Extended.same]

theorem face_eq_number_iff : x.face = .number a ↔ (Value.ofJson x).number? = some a := by
  cases x <;> simp [face, Value.ofJson, Value.number?]

theorem number_ne_nan (hx : x.IsProper) (h : (Value.ofJson x).number? = some a) : a ≠ .nan := by
  cases x with
  | bool _ | int _ => simp [← Option.some.inj h, Extended.ofInt]
  | float d => exact Option.some.inj h ▸ ofBinary64_ne_nan hx
  | null | str _ | arr _ | obj _ => cases h

theorem part?_of_number (h : (Value.ofJson x).number? = some a) (s : Step) : x.part? s = none := by
  cases x <;> first | rfl | cases h

theorem same_of_number (h : (Value.ofJson x).number? = some a) (y : Value) :
    (Value.ofJson x).same y = true ↔ ∃ b, y.number? = some b ∧ a.same b = true := by
  have hsame : (Value.ofJson x).same y = Value.same.sameNumber (Value.ofJson x) y := by
    cases x with
    | bool _ | int _ | float _ => cases y <;> rfl
    | null | str _ | arr _ | obj _ => cases h
  rw [hsame, Value.same.sameNumber, h]
  cases y.number? <;> simp

theorem same_number_iff (hx : x.IsProper) (h : (Value.ofJson x).number? = some a) :
    (Value.ofJson x).same (Value.ofJson y) = true ↔ x.view = y.view := by
  rw [same_of_number h, view_eq_iff, face_eq_number_iff.mpr h, eq_comm, face_eq_number_iff]
  constructor
  · rintro ⟨b, hb, hsame⟩
    obtain rfl := (extended_same_iff (number_ne_nan hx h)).mp hsame
    exact ⟨hb, fun s => by rw [part?_of_number h, part?_of_number hb]⟩
  · rintro ⟨hy, -⟩
    exact ⟨a, hy, (extended_same_iff (number_ne_nan hx h)).mpr rfl⟩

theorem lookup_ofFields (k : String) :
    (Value.ofFields fs).lookup k = (fs.lookup k).map Value.ofJson := by
  induction fs with
  | nil => rfl
  | cons f fs ih =>
    rw [Value.ofFields, List.lookup_cons, List.lookup_cons]
    cases k == f.1 <;> simp [ih]

theorem length_ofFields : (Value.ofFields fs).length = fs.length := by
  induction fs with
  | nil => rfl
  | cons f fs ih => rw [Value.ofFields, List.length_cons, List.length_cons, ih]

/-- Under keys that differ, as many fields of which each has an equal one are the same fields. -/
theorem view_obj_iff_of_length (hfs : (keys fs).Nodup) (hgs : (keys gs).Nodup) :
    (obj fs).view = (obj gs).view ↔ fs.length = gs.length ∧
      ∀ f ∈ fs, ∃ y, gs.lookup f.1 = some y ∧ f.2.view = y.view := by
  rw [view_obj_iff]
  constructor
  · intro h
    have hperm : (keys fs).Perm (keys gs) :=
      (List.perm_ext_iff_of_nodup hfs hgs).mpr fun k => mem_keys_iff_of_lookup (h k)
    refine ⟨by simpa [keys] using hperm.length_eq, fun f hf => ?_⟩
    have hk := h f.1
    rw [(lookup_eq_some_iff hfs).mpr hf] at hk
    obtain ⟨y, hy, hview⟩ := Option.map_eq_some_iff.mp hk.symm
    exact ⟨y, hy, hview.symm⟩
  · rintro ⟨hlength, hall⟩ k
    have hsub : keys fs ⊆ keys gs := by
      intro k hk
      obtain ⟨x, hx⟩ := mem_keys_iff.mp hk
      obtain ⟨y, hy, -⟩ := hall (k, x) hx
      exact mem_keys ((lookup_eq_some_iff hgs).mp hy)
    have hperm : (keys fs).Perm (keys gs) :=
      (List.subperm_of_subset hfs hsub).perm_of_length_le (by simp [keys, hlength])
    cases hx : fs.lookup k with
    | none =>
      rw [lookup_eq_none_iff, hperm.mem_iff, ← lookup_eq_none_iff] at hx
      rw [hx]
    | some x =>
      obtain ⟨y, hy, hview⟩ := hall (k, x) ((lookup_eq_some_iff hfs).mp hx)
      rw [hy, Option.map_some, Option.map_some, hview]

mutual

/-- Two values are equal if they are the same along every path. -/
theorem same_ofJson_iff : ∀ {x y : Json}, x.IsProper → y.IsProper →
    ((Value.ofJson x).same (Value.ofJson y) = true ↔ x.view = y.view)
  | bool _, _, hx, _ | int _, _, hx, _ | float _, _, hx, _ => same_number_iff hx rfl
  | null, y, _, _ => by
    rw [view_eq_iff]
    cases y <;> simp [Value.ofJson, Value.same, face, part?]
  | str s, y, _, _ => by
    rw [view_eq_iff]
    cases y <;> simp [Value.ofJson, Value.same, face, part?]
  | arr xs, arr ys, hx, hy => by
    rw [Value.ofJson, Value.ofJson, Value.same, sameItems_ofItems_iff hx hy, view_arr_iff]
  | obj fs, obj gs, hx, hy => by
    rw [Value.ofJson, Value.ofJson, Value.same, view_obj_iff_of_length hx.1 hy.1,
      Bool.and_eq_true, decide_eq_true_eq, length_ofFields, length_ofFields,
      sameFields_ofFields_iff hx.2 hy.2]
  | arr _, null, _, _ | arr _, bool _, _, _ | arr _, int _, _, _ | arr _, float _, _, _
  | arr _, str _, _, _ | arr _, obj _, _, _ => by
    simp [view_eq_iff, Value.ofJson, Value.same, face]
  | obj _, null, _, _ | obj _, bool _, _, _ | obj _, int _, _, _ | obj _, float _, _, _
  | obj _, str _, _, _ | obj _, arr _, _, _ => by
    simp [view_eq_iff, Value.ofJson, Value.same, face]

theorem sameItems_ofItems_iff : ∀ {xs ys : List Json}, AreProper xs → AreProper ys →
    (Value.sameItems (Value.ofItems xs) (Value.ofItems ys) = true ↔ xs.map view = ys.map view)
  | [], [], _, _ => by simp [Value.ofItems, Value.sameItems]
  | [], _ :: _, _, _ => by simp [Value.ofItems, Value.sameItems]
  | _ :: _, [], _, _ => by simp [Value.ofItems, Value.sameItems]
  | x :: xs, y :: ys, hx, hy => by
    rw [Value.ofItems, Value.ofItems, Value.sameItems, Bool.and_eq_true,
      same_ofJson_iff hx.1 hy.1, sameItems_ofItems_iff hx.2 hy.2, List.map_cons, List.map_cons,
      List.cons.injEq]

theorem sameFields_ofFields_iff : ∀ {fs gs : List (String × Json)}, AreProperFields fs →
    AreProperFields gs → (Value.sameFields (Value.ofFields fs) (Value.ofFields gs) = true ↔
      ∀ f ∈ fs, ∃ y, gs.lookup f.1 = some y ∧ f.2.view = y.view)
  | [], _, _, _ => by simp [Value.ofFields, Value.sameFields]
  | (k, x) :: fs, gs, hx, hy => by
    rw [Value.ofFields, Value.sameFields, Bool.and_eq_true, lookup_ofFields,
      sameFields_ofFields_iff hx.2 hy, List.forall_mem_cons]
    refine and_congr_left fun _ => ?_
    cases hk : gs.lookup k with
    | none => simp
    | some y =>
      obtain ⟨before, after, rfl, -⟩ := List.lookup_eq_some_iff.mp hk
      have hproper : y.IsProper := areProperFields_iff.mp hy (k, y) (by simp)
      simpa using same_ofJson_iff hx.1 hproper

end

namespace Reordered

theorem isBool_eq (h : Reordered x y) : x.isBool = y.isBool := by
  induction h with
  | refl x => rfl
  | fields _ => rfl
  | item before after _ _ => rfl
  | field before after k _ _ => rfl
  | trans _ _ hxy hyz => exact hxy.trans hyz

theorem isProper (h : Reordered x y) (hx : x.IsProper) : y.IsProper := by
  induction h with
  | refl x => exact hx
  | @fields fs gs hperm =>
    refine ⟨(hperm.map Prod.fst).nodup hx.1, areProperFields_iff.mpr fun g hg => ?_⟩
    exact areProperFields_iff.mp hx.2 g (hperm.mem_iff.mpr hg)
  | item before after _ ih =>
    have hall := areProper_iff.mp hx
    simp only [List.forall_mem_append, List.forall_mem_cons] at hall
    refine areProper_iff.mpr ?_
    simp only [List.forall_mem_append, List.forall_mem_cons]
    exact ⟨hall.1, ih hall.2.1, hall.2.2⟩
  | field before after k _ ih =>
    have hall := areProperFields_iff.mp hx.2
    simp only [List.forall_mem_append, List.forall_mem_cons] at hall
    refine ⟨by simpa [keys] using hx.1, areProperFields_iff.mpr ?_⟩
    simp only [List.forall_mem_append, List.forall_mem_cons]
    exact ⟨hall.1, ih hall.2.1, hall.2.2⟩
  | trans _ _ hxy hyz => exact hyz (hxy hx)

theorem view_eq (h : Reordered x y) (hx : x.IsProper) : x.view = y.view := by
  induction h with
  | refl x => rfl
  | @fields fs gs hperm =>
    have hgs : (keys gs).Nodup := (hperm.map Prod.fst).nodup hx.1
    have hlookup : ∀ k, fs.lookup k = gs.lookup k := fun k => Option.ext fun y => by
      rw [lookup_eq_some_iff hx.1, lookup_eq_some_iff hgs, hperm.mem_iff]
    exact view_obj_iff.mpr fun k => by rw [hlookup k]
  | @item before after x y _ ih =>
    have hproper : x.IsProper := areProper_iff.mp hx x (by simp)
    rw [view_arr_iff, List.map_append, List.map_append, List.map_cons, List.map_cons, ih hproper]
  | @field before after k x y _ ih =>
    have hproper : x.IsProper := areProperFields_iff.mp hx.2 (k, x) (by simp)
    refine view_obj_iff.mpr fun l => ?_
    rw [List.lookup_append, List.lookup_append, lookup_cons, lookup_cons]
    split
    · cases before.lookup l <;> simp [ih hproper]
    · rfl
  | trans hxy _ ihxy ihyz => exact (ihxy hx).trans (ihyz (hxy.isProper hx))

theorem alike (h : Reordered x y) (hx : x.IsProper) : x.Alike y := ⟨h.isBool_eq, h.view_eq hx⟩

end Reordered

theorem alike_equivalence : Equivalence Alike where
  refl _ := ⟨rfl, rfl⟩
  symm h := ⟨h.1.symm, h.2.symm⟩
  trans h h' := ⟨h.1.trans h'.1, h.2.trans h'.2⟩

theorem Alike.congr_left (h : x.Alike y) : x.Alike z ↔ y.Alike z :=
  ⟨alike_equivalence.trans (alike_equivalence.symm h), alike_equivalence.trans h⟩

theorem Alike.congr_right (h : x.Alike y) : z.Alike x ↔ z.Alike y :=
  ⟨fun hz => alike_equivalence.trans hz h,
    fun hz => alike_equivalence.trans hz (alike_equivalence.symm h)⟩

end Scaffold.Json

namespace Scaffold.Template

open Number

/-- The JSON values with an equality. -/
abbrev Proper := { x : Json // x.IsProper }

/-- What a helper of two parameters answers for two JSON values. -/
def Helper.answer (h : Helper) (x y : Json) : Except Trouble Value :=
  h.apply [.ofJson x, .ofJson y] []

variable {x y v w : Json}

namespace Value

theorem strictlySame_ofJson : (ofJson x).strictlySame (ofJson y) =
    (x.isBool == y.isBool && (ofJson x).same (ofJson y)) := by
  cases x with
  | bool a =>
    cases y with
    | bool b => cases a <;> cases b <;> decide
    | null | int _ | float _ | str _ | arr _ | obj _ => rfl
  | null | int _ | float _ | str _ | arr _ | obj _ => cases y <;> rfl

theorem strictlySame_ofJson_iff (hx : x.IsProper) (hy : y.IsProper) :
    (ofJson x).strictlySame (ofJson y) = true ↔ x.Alike y := by
  rw [strictlySame_ofJson, Bool.and_eq_true, beq_iff_eq, Json.same_ofJson_iff hx hy, Json.Alike]

theorem includes_ofJson_iff : (ofJson x).includes (ofJson y) = true ↔
    ∃ items, x = .arr items ∧ ∃ item ∈ items, (ofJson item).strictlySame (ofJson y) = true := by
  cases x with
  | arr items =>
    have hitems : ofItems items = items.map ofJson := by
      induction items with
      | nil => rfl
      | cons item items ih => rw [ofItems, ih, List.map_cons]
    simp [ofJson, includes, hitems]
  | null | bool _ | int _ | float _ | str _ | obj _ => simp [ofJson, includes]

end Value

namespace Helper

theorem answer_eq : eq.answer x y = .ok (.bool ((Value.ofJson x).strictlySame (.ofJson y))) := rfl

theorem answer_ne : ne.answer x y = .ok (.bool !(Value.ofJson x).strictlySame (.ofJson y)) := rfl

theorem answer_includes :
    includes.answer x y = .ok (.bool ((Value.ofJson x).includes (.ofJson y))) := rfl

theorem answer_eq_true_iff :
    eq.answer x y = .ok (.bool true) ↔ (Value.ofJson x).strictlySame (.ofJson y) = true := by
  rw [answer_eq, Except.ok.injEq, Value.bool.injEq]

theorem answer_eq_true_iff_alike (x y : Proper) :
    eq.answer x y = .ok (.bool true) ↔ x.1.Alike y := by
  rw [answer_eq_true_iff, Value.strictlySame_ofJson_iff x.2 y.2]

/-- Values that are alike cannot be told apart by a comparison with a third. -/
theorem answer_eq_congr {x y : Proper} (h : x.1.Alike y) (z : Proper) :
    eq.answer x z = eq.answer y z := by
  rw [answer_eq, answer_eq]
  congr 2
  rw [Bool.eq_iff_iff, Value.strictlySame_ofJson_iff x.2 z.2, Value.strictlySame_ofJson_iff y.2 z.2]
  exact h.congr_left

theorem answer_includes_congr {v w : Proper} (h : v.1.Alike w) (xs : Proper) :
    includes.answer xs v = includes.answer xs w := by
  rw [answer_includes, answer_includes]
  congr 2
  rw [Bool.eq_iff_iff, Value.includes_ofJson_iff, Value.includes_ofJson_iff]
  refine exists_congr fun items => and_congr_right fun hxs => exists_congr fun item =>
    and_congr_right fun hitem => ?_
  have hproper : item.IsProper := by
    have hall := xs.2
    rw [hxs] at hall
    exact Json.areProper_iff.mp hall item hitem
  rw [Value.strictlySame_ofJson_iff hproper v.2, Value.strictlySame_ofJson_iff hproper w.2]
  exact h.congr_right

end Helper

end Scaffold.Template
