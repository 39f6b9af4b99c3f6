import Scaffold.Proofs.Json.Numbers
import Scaffold.Proofs.Json.ReadBack
import Scaffold.Proofs.Ledger.Contents
import Scaffold.Proofs.Store.Linkless
import Scaffold.Template.Helper

/-!
# Written JSON is read back

A value with finite doubles is written as the text that the helper of templates gives for it and a
line feed, and a reader that knows no words for what is no number reads the file as that value again
(`writeJson_reads_back`): the same fields in the same order, integers as integers and doubles as
doubles.
-/

namespace Scaffold.Json

open Number Token
open Template (Value Helper)

mutual

/-- Every integer is short enough to be written, and every double is a finite one. -/
def IsWritable : Json → Prop
  | int n => Value.isLong n = false
  | float x => x.IsFinite
  | arr xs => AreWritable xs
  | obj fs => AreWritableFields fs
  | _ => True

def AreWritable : List Json → Prop
  | [] => True
  | x :: xs => IsWritable x ∧ AreWritable xs

def AreWritableFields : List (String × Json) → Prop
  | [] => True
  | (_, x) :: fs => IsWritable x ∧ AreWritableFields fs

end

/-- The token is no word for what is no number. -/
def Token.isStrict : Token → Bool
  | plain (float (.finite _ _ _)) _ => true
  | plain (float _) _ => false
  | _ => true

/-- Reads a text by the letter of the format, which has no words for what is no number. -/
def parseStrict? (cs : List Char) : Option Json := do
  let tokens ← Token.scan cs
  if tokens.all Token.isStrict then ofTokens? tokens else none

variable {v : Json}

mutual

theorem IsWritable.isLegible : ∀ {x : Json}, x.IsWritable → x.IsLegible
  | null, _ | bool _, _ | str _, _ => trivial
  | int n, _ => isWordOf_int n
  | float (.finite negative _ _), h => isWordOf_float h negative
  | float (.infinite _), h | float .nan, h => h.elim
  | arr _, h => AreWritable.areLegible h
  | obj _, h => AreWritableFields.areLegible h

theorem AreWritable.areLegible : ∀ {xs : List Json}, AreWritable xs → AreLegible xs
  | [], _ => trivial
  | _ :: _, ⟨hx, hxs⟩ => ⟨hx.isLegible, AreWritable.areLegible hxs⟩

theorem AreWritableFields.areLegible : ∀ {fs : List (String × Json)}, AreWritableFields fs →
    AreLegibleFields fs
  | [], _ => trivial
  | _ :: _, ⟨hx, hfs⟩ => ⟨hx.isLegible, AreWritableFields.areLegible hfs⟩

end

mutual

/-- The value that templates see is taken back for the helper. -/
theorem toJson_ofJson : ∀ {x : Json}, x.IsWritable → (Value.ofJson x).toJson = .ok x
  | null, _ | bool _, _ | str _, _ | float _, _ => rfl
  | int n, h => by
    have hshort : Value.isLong n = false := h
    simp [Value.ofJson, Value.toJson, hshort]
  | arr xs, h => by rw [Value.ofJson, Value.toJson, toItems_ofItems h]; rfl
  | obj fs, h => by rw [Value.ofJson, Value.toJson, toFields_ofFields h]; rfl

theorem toItems_ofItems : ∀ {xs : List Json}, AreWritable xs →
    Value.toItems (Value.ofItems xs) = .ok xs
  | [], _ => rfl
  | _ :: _, ⟨hx, hxs⟩ => by
    rw [Value.ofItems, Value.toItems, toJson_ofJson hx, toItems_ofItems hxs]
    rfl

theorem toFields_ofFields : ∀ {fs : List (String × Json)}, AreWritableFields fs →
    Value.toFields (Value.ofFields fs) = .ok fs
  | [], _ => rfl
  | (_, _) :: _, ⟨hx, hfs⟩ => by
    rw [Value.ofFields, Value.toFields, toJson_ofJson hx, toFields_ofFields hfs]
    rfl

end

mutual

theorem isStrict_tokens : ∀ {x : Json}, x.IsWritable → (tokens x).all Token.isStrict
  | null, _ | bool _, _ | str _, _ | int _, _ => rfl
  | float (.finite _ _ _), _ => rfl
  | float (.infinite _), h | float .nan, h => h.elim
  | arr [], _ | obj [], _ => rfl
  | arr (_ :: _), ⟨hx, hxs⟩ => by
    simp [tokens, Token.isStrict, isStrict_tokens hx, isStrict_itemTokens hxs]
  | obj ((_, _) :: _), ⟨hx, hfs⟩ => by
    simp [tokens, Token.isStrict, fieldTokens, isStrict_tokens hx, isStrict_moreFieldTokens hfs]

theorem isStrict_itemTokens : ∀ {xs : List Json}, AreWritable xs →
    (itemTokens xs).all Token.isStrict
  | [], _ => rfl
  | _ :: _, ⟨hx, hxs⟩ => by
    simp [itemTokens, Token.isStrict, isStrict_tokens hx, isStrict_itemTokens hxs]

theorem isStrict_moreFieldTokens : ∀ {fs : List (String × Json)}, AreWritableFields fs →
    (moreFieldTokens fs).all Token.isStrict
  | [], _ => rfl
  | (_, _) :: _, ⟨hx, hfs⟩ => by
    simp [moreFieldTokens, fieldTokens, Token.isStrict, isStrict_tokens hx,
      isStrict_moreFieldTokens hfs]

end

/-! ## Files -/

theorem scan_jsonContent (h : v.IsWritable) :
    Token.scan (Site.jsonContent v).toList = some (tokens v) := by
  have hend : StartsNoWord ['\n'] := by
    rintro c ⟨⟩
    rfl
  have hscan := scanFrom_chars 0 v h.isLegible hend
  rw [Site.jsonContent, pretty, String.toList_append, String.toList_ofList, Token.scan]
  simpa [scanFrom, next?, between?] using hscan

theorem parseStrict?_jsonContent (h : v.IsWritable) :
    parseStrict? (Site.jsonContent v).toList = some v := by
  rw [parseStrict?, scan_jsonContent h, Option.bind_eq_bind, Option.bind_some,
    if_pos (isStrict_tokens h), ofTokens?_tokens]

theorem return_notMem_jsonContent (h : v.IsWritable) : '\r' ∉ (Site.jsonContent v).toList := by
  have hpretty := return_notMem_chars 0 v h.isLegible
  simpa [Site.jsonContent, pretty] using hpretty

/-- One as a double, one tenth, minus zero, the least double and the largest. -/
def someDoubles : List Json :=
  [.float (.finite false 4503599627370496 (-52)), .float (.finite false 7205759403792794 (-56)),
    .float (.finite true 0 (-1074)), .float (.finite false 1 (-1074)),
    .float (.finite false 9007199254740991 971)]

def someValue : Json := .obj [("z", .arr []), ("a", .obj [("", .obj [])]),
  ("n", .arr (.int 1 :: .int (-18446744073709551616) :: someDoubles)),
  ("\"\\\u00e9", .str "\r\n\x00\u2028"), ("t", .arr [.bool true, .bool false, .null])]

theorem someValue_isWritable : someValue.IsWritable := by
  have hshort : Value.isLong 1 = false ∧ Value.isLong (-18446744073709551616) = false := by
    decide +kernel
  have hdoubles : AreWritable someDoubles := by
    simp only [someDoubles, AreWritable, IsWritable, Binary64.IsFinite, and_true]
    decide
  simp [someValue, IsWritable, AreWritable, AreWritableFields, hshort, hdoubles]

/-- What stands in the file before its last line feed. -/
example : String.ofList (chars 0 (.arr (.int 1 :: someDoubles))) =
    "[\n  1,\n  1.0,\n  0.1,\n  -0.0,\n  5e-324,\n  1.7976931348623157e+308\n]" := by
  decide +kernel

end Scaffold.Json
