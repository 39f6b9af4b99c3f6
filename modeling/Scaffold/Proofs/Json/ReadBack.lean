import Scaffold.Proofs.Json.Scanning

/-!
# Printed JSON is read back

The reader takes the tokens of a value one after the other and ends with that value on the stack it
began with (`read_tokens`), so a printed value whose numbers are legible is read back, fields in the
same order (`parse?_pretty`), also within limits that its tokens and its depth keep
(`parseWithin?_pretty`).
-/

namespace Scaffold.Json

open Token

namespace Reading

/-- Tokens taken one after the other. -/
def takeAll? (r : Reading) (ts : List Token) : Option Reading := ts.foldlM next? r

variable {r r' : Reading} {t : Token} {ts more : List Token}

theorem takeAll?_cons (h : r.next? t = some r') : r.takeAll? (t :: ts) = r'.takeAll? ts := by
  rw [takeAll?, List.foldlM_cons, h]
  rfl

theorem takeAll?_append (h : r.takeAll? ts = some r') :
    r.takeAll? (ts ++ more) = r'.takeAll? more := by
  rw [takeAll?, List.foldlM_append, ← takeAll?, h]
  rfl

end Reading

open Reading

/-- A value may come next. -/
def Expected.TakesValue (e : Expected) : Prop := e = .value ∨ e = .firstItem

/-- A key may come next, after these fields. -/
def Expected.TakesKey (fields : List (String × Json)) (e : Expected) : Prop :=
  e = .firstKey fields ∨ e = .key fields

section

variable {stack : List Frame} {e : Expected} {fields : List (String × Json)}

theorem next?_plain (he : e.TakesValue) (x : Json) (whole : Nat) :
    next? ⟨stack, e⟩ (.plain x whole) = some ⟨stack, .after x⟩ := by
  rcases he with rfl | rfl <;> rfl

theorem next?_openArray (he : e.TakesValue) :
    next? ⟨stack, e⟩ .openArray = some ⟨.array [] :: stack, .firstItem⟩ := by
  rcases he with rfl | rfl <;> rfl

theorem next?_openObject (he : e.TakesValue) :
    next? ⟨stack, e⟩ .openObject = some ⟨stack, .firstKey []⟩ := by
  rcases he with rfl | rfl <;> rfl

theorem next?_key (he : e.TakesKey fields) (key : String) (whole : Nat) :
    next? ⟨stack, e⟩ (.plain (str key) whole) = some ⟨stack, .colon fields key⟩ := by
  rcases he with rfl | rfl <;> rfl

end

mutual

theorem read_tokens : ∀ (x : Json) {stack : List Frame} {e : Expected}, e.TakesValue →
    takeAll? ⟨stack, e⟩ (tokens x) = some ⟨stack, .after x⟩
  | null, _, _, he | bool _, _, _, he | int _, _, _, he | float _, _, _, he | str _, _, _, he =>
    takeAll?_cons (next?_plain he _ _)
  | arr [], _, _, he => by
    rw [tokens, takeAll?_cons (next?_openArray he)]
    rfl
  | arr (x :: xs), stack, _, he => by
    rw [tokens, List.append_assoc, List.cons_append, takeAll?_cons (next?_openArray he),
      takeAll?_append (read_tokens x (.inr rfl)), read_itemTokens xs]
    rfl
  | obj [], _, _, he => by
    rw [tokens, takeAll?_cons (next?_openObject he)]
    rfl
  | obj ((key, x) :: fs), stack, _, he => by
    rw [tokens, List.append_assoc, List.cons_append, takeAll?_cons (next?_openObject he),
      takeAll?_append (read_fieldTokens (key, x) (.inl rfl)), read_moreFieldTokens fs]
    rfl

theorem read_fieldTokens : ∀ (f : String × Json) {stack : List Frame} {e : Expected}
    {fields : List (String × Json)}, e.TakesKey fields →
    takeAll? ⟨stack, e⟩ (fieldTokens f) = some ⟨.object fields f.1 :: stack, .after f.2⟩
  | (key, x), _, _, _, he => by
    rw [fieldTokens, takeAll?_cons (next?_key he key 0), takeAll?_cons rfl]
    exact read_tokens x (.inl rfl)

/-- The items after a first one, up to the end of the array. -/
theorem read_itemTokens : ∀ (xs : List Json) {stack : List Frame} {items : List Json} {y : Json},
    takeAll? ⟨.array items :: stack, .after y⟩ (itemTokens xs ++ [.closeArray]) =
      some ⟨stack, .after (arr ((y :: items).reverse ++ xs))⟩
  | [], stack, items, y => by
    rw [List.append_nil]
    rfl
  | x :: xs, stack, items, y => by
    rw [itemTokens, List.append_assoc, List.cons_append, takeAll?_cons rfl,
      takeAll?_append (read_tokens x (.inl rfl)), read_itemTokens xs]
    simp

/-- The fields after a first one, up to the end of the object. -/
theorem read_moreFieldTokens : ∀ (fs : List (String × Json)) {stack : List Frame}
    {fields : List (String × Json)} {key : String} {y : Json},
    takeAll? ⟨.object fields key :: stack, .after y⟩ (moreFieldTokens fs ++ [.closeObject]) =
      some ⟨stack, .after (obj (((key, y) :: fields).reverse ++ fs))⟩
  | [], stack, fields, key, y => by
    rw [List.append_nil]
    rfl
  | (k, x) :: fs, stack, fields, key, y => by
    rw [moreFieldTokens, List.append_assoc, List.cons_append, takeAll?_cons rfl,
      takeAll?_append (read_fieldTokens (k, x) (.inr rfl)), read_moreFieldTokens fs]
    simp

end

theorem ofTokens?_tokens (x : Json) : ofTokens? (tokens x) = some x := by
  have h : takeAll? start (tokens x) = some ⟨[], .after x⟩ := read_tokens x (.inl rfl)
  rw [ofTokens?, ← takeAll?, h]
  rfl

variable {x : Json}

/-- **A printed value is read back.** -/
theorem parse?_pretty (h : x.IsLegible) : parse? x.pretty.toList = some x := by
  rw [parse?, scan_pretty h, Option.bind_some, ofTokens?_tokens]

theorem parseWithin?_pretty {l : Limits} (h : x.IsLegible) (ht : (tokens x).all l.admits)
    (hd : x.depth ≤ l.depth) : parseWithin? l x.pretty.toList = some x := by
  rw [parseWithin?, scan_pretty h, Option.bind_eq_bind, Option.bind_some, if_pos ht,
    ofTokens?_tokens]
  simp [hd]

end Scaffold.Json
