import Scaffold.Blueprint.Basic
import Scaffold.Issue
import Scaffold.Json.Parser

/-!
# Blueprints from given values

Three of the six fields have a short name. All issues of a record are reported together, those of
the fields in field order and then the unknown keys in theirs.
-/

namespace Scaffold

namespace Choices

def recordName : String := "BlueprintData"

def nameField : FieldName := ⟨"project_name", some "projectName"⟩
def languageField : FieldName := ⟨"language", none⟩
def importStyleField : FieldName := ⟨"import_style", some "importStyle"⟩
def databaseField : FieldName := ⟨"database", none⟩
def ormField : FieldName := ⟨"orm", none⟩
def targetField : FieldName := ⟨"target_path", some "targetPath"⟩

def fieldNames : List FieldName :=
  [nameField, languageField, importStyleField, databaseField, ormField, targetField]

/-- One of the words of a choice. -/
def word (α : Type) [Choice α] (x : Json) : Except Problem α :=
  match x.str?.bind Choice.ofWord? with
  | some a => .ok a
  | none => .error (.notAmong (Choice.words α))

def ofFields (fields : List (String × Json)) : Except (List Issue) Choices :=
  let name := nameField.read fields Json.text
  let language := languageField.read fields (word Language)
  let importStyle := importStyleField.read fields (word ImportStyle)
  let database := databaseField.read fields (word Database)
  let orm := ormField.read fields (word Orm)
  let target := targetField.read fields Json.text
  let extra := (FieldName.others fieldNames fields).map fun key => ⟨some key, .unexpected⟩
  match name, language, importStyle, database, orm, target, extra with
  | .ok name, .ok language, .ok importStyle, .ok database, .ok orm, .ok target, [] =>
    .ok ⟨name, language, importStyle, database, orm, target⟩
  | name, language, importStyle, database, orm, target, extra =>
    .error (Issue.ofResult name ++ Issue.ofResult language ++ Issue.ofResult importStyle
      ++ Issue.ofResult database ++ Issue.ofResult orm ++ Issue.ofResult target ++ extra)

/-- What a stored record must keep within. -/
def textLimits : Json.Limits := ⟨200, 4300⟩

def ofText (cs : List Char) : Except (List Issue) Choices :=
  match Json.parseWithin? textLimits cs with
  | none => .error [⟨none, .notJson⟩]
  | some x => match x.fields? with
    | none => .error [⟨none, .notObject⟩]
    | some fields => ofFields fields

end Choices

inductive Rejection where
  | malformed (issues : List Issue)
  /-- The text in this file is no record of choices. -/
  | malformedFile (path : String) (issues : List Issue)
  | rule (broken : BrokenRule)
  deriving DecidableEq, Repr

namespace Rejection

def message : Rejection → String
  | malformed issues => "Invalid configuration: " ++ Issue.summary issues Choices.recordName
  | malformedFile path issues =>
    "Invalid configuration in " ++ path ++ ": " ++ Issue.summary issues Choices.recordName
  | rule broken => broken.message

def issues? : Rejection → Option (List Issue)
  | malformed issues | malformedFile _ issues => some issues
  | rule _ => none

end Rejection

namespace Blueprint

def accept (c : Choices) : Except Rejection Blueprint := (ofChoices c).mapError .rule

def ofFields (fields : List (String × Json)) : Except Rejection Blueprint := do
  let c ← (Choices.ofFields fields).mapError .malformed
  accept c

/-! ## Changes

A blueprint never changes in place. `withChanges` makes another one, and an attempt to set or delete
something is refused in words. -/

/-- What someone may try to do in place. -/
inductive Attempt where
  | set (x : Json)
  | delete
  deriving Repr

/-- The answer to every attempt. -/
def refusal (a : Attempt) (name : String) : String :=
  "Blueprint is immutable; cannot " ++ (match a with | .set _ => "set " | .delete => "delete ")
    ++ Text.quoted name

/-- A list of fields with one more; a field that is there keeps its place. -/
def putField (key : String) (x : Json) : List (String × Json) → List (String × Json)
  | [] => [(key, x)]
  | (k, y) :: rest => if k = key then (k, x) :: rest else (k, y) :: putField key x rest

/-- Moves a value from a short name to the name that it stands for. -/
def expandShort (changes : List (String × Json)) (f : FieldName) : List (String × Json) :=
  match f.short?.bind fun short => (changes.lookup short).map (short, ·) with
  | none => changes
  | some (short, x) => putField f.name x (changes.filter fun c => c.1 ≠ short)

/-- The fields of a blueprint with changes on top; a short name stands above the long one. -/
def changedFields (b : Blueprint) (changes : List (String × Json)) : List (String × Json) :=
  (Choices.fieldNames.foldl expandShort changes).foldl
    (fun fields (key, x) => putField key x fields)
    (b.entries.map fun (key, value) => (key, .str value))

/-- A blueprint that differs from this one in the given fields. -/
def withChanges (b : Blueprint) (changes : List (String × Json)) : Except Rejection Blueprint :=
  ofFields (b.changedFields changes)

end Blueprint

end Scaffold
