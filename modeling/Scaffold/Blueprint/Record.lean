import Scaffold.Blueprint.Decode

/-!
# Records in place

A record of choices is frozen: nothing in it can be set or deleted. Names that begin with a low line
lie outside the record. Such a name takes any value, which the record then does not show, unless it
belongs to the machinery of records.
-/

namespace Scaffold.Choices

/-- Why an attempt on a record fails. -/
inductive Obstacle where
  /-- It is about the record itself. -/
  | issues (found : List Issue)
  /-- The name belongs to the machinery of records and is fixed. -/
  | fixedName
  /-- The value is none that the name can take. -/
  | wrongValue
  deriving DecidableEq, Repr

def frozen (name : String) : List Issue := [⟨some name, .frozen⟩]

/-- Names that no record can set. -/
def fixedNames : List String :=
  ["__class_vars__", "__fields_set__", "__private_attributes__", "__signature__", "__weakref__"]

def setOutside (name : String) (x : Json) : Except Obstacle Unit :=
  if fixedNames.contains name then .error .fixedName
  else if name = "__class__" then .error .wrongValue
  else if name = "__dict__" && x.fields?.isNone then .error .wrongValue
  else .ok ()

/-- Carries out an attempt on a record as far as it can be. -/
def attempt (a : Blueprint.Attempt) (name : String) : Except Obstacle Unit :=
  match a, name.toList with
  | .set x, '_' :: _ => setOutside name x
  | _, _ => .error (.issues (frozen name))

end Scaffold.Choices
