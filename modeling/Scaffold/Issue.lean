import Scaffold.Json.Basic
import Scaffold.Text.Quoted

/-!
# Issues with given values

Values that come from outside are read field by field, and what is wrong with them is reported all
at once: where, and of which kind. A field is looked up by its short name and then by its own.
-/

namespace Scaffold

inductive Problem where
  | missing
  | notText
  /-- Not one of these words. -/
  | notAmong (words : List String)
  | unexpected
  | notObject
  | notJson
  | notPath
  | notFlag
  | unclearFlag
  | frozen
  deriving DecidableEq, Repr

namespace Problem

/-- Words in quotes, with commas and a last "or" between them. -/
def alternatives : List String → String
  | [] => ""
  | [w] => Text.quoted w
  | [v, w] => Text.quoted v ++ " or " ++ Text.quoted w
  | w :: ws => Text.quoted w ++ ", " ++ alternatives ws

def kind : Problem → String
  | missing => "missing"
  | notText => "string_type"
  | notAmong _ => "enum"
  | unexpected => "extra_forbidden"
  | notObject => "model_type"
  | notJson => "json_invalid"
  | notPath => "path_type"
  | notFlag => "bool_type"
  | unclearFlag => "bool_parsing"
  | frozen => "frozen_instance"

def message : Problem → String
  | missing => "Field required"
  | notText => "Input should be a valid string"
  | notAmong words => "Input should be " ++ alternatives words
  | unexpected => "Extra inputs are not permitted"
  | notObject => "Input should be an object"
  | notJson => "Invalid JSON"
  | notPath => "Input is not a valid path for <class 'pathlib.Path'>"
  | notFlag => "Input should be a valid boolean"
  | unclearFlag => "Input should be a valid boolean, unable to interpret input"
  | frozen => "Instance is frozen"

end Problem

/-- A problem and the field it is found in; a problem of the whole has no field. -/
structure Issue where
  field : Option String
  problem : Problem
  deriving DecidableEq, Repr

/-- How many issues a record of the given kind has. -/
def Issue.summary (issues : List Issue) (record : String) : String :=
  toString issues.length
    ++ (if issues.length = 1 then " validation error" else " validation errors")
    ++ " for " ++ record

/-- The name of a field, with the short name that is looked up first if it has one. -/
structure FieldName where
  name : String
  short? : Option String

namespace FieldName

/-- The key that a field is found under, and its value. -/
def find? (f : FieldName) (fields : List (String × Json)) : Option (String × Json) :=
  let byName := (Json.lastField? f.name fields).map (f.name, ·)
  match f.short? with
  | none => byName
  | some short => ((Json.lastField? short fields).map (short, ·)).or byName

/-- The name under which a missing field is reported. -/
def reported (f : FieldName) : String := f.short?.getD f.name

/-- Reads a field that has to be there. -/
def read {α : Type} (f : FieldName) (fields : List (String × Json))
    (value : Json → Except Problem α) : Except Issue α :=
  match f.find? fields with
  | none => .error ⟨some f.reported, .missing⟩
  | some (key, x) => (value x).mapError (⟨some key, ·⟩)

/-- The keys that none of the fields is found under, in their order. -/
def others (names : List FieldName) (fields : List (String × Json)) : List String :=
  let used := names.filterMap fun f => (f.find? fields).map (·.1)
  (fields.map (·.1)).filter fun key => !used.contains key

end FieldName

def Issue.ofResult {α : Type} : Except Issue α → List Issue
  | .ok _ => []
  | .error issue => [issue]

def Json.text : Json → Except Problem String
  | .str s => .ok s
  | _ => .error .notText

end Scaffold
