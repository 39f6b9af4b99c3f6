import Scaffold.Number.Binary64

/-!
# JSON values

Integers have any size and are kept apart from doubles; an object keeps its fields in the order in
which they were written.
-/

namespace Scaffold

open Number

inductive Json where
  | null
  | bool (b : Bool)
  | int (n : Int)
  | float (x : Binary64)
  | str (s : String)
  | arr (items : List Json)
  | obj (fields : List (String × Json))
  deriving Inhabited, Repr

namespace Json

def fields? : Json → Option (List (String × Json))
  | obj fields => some fields
  | _ => none

def str? : Json → Option String
  | str s => some s
  | _ => none

/-- The last value that a list of fields gives to a key. -/
def lastField? (key : String) (fields : List (String × Json)) : Option Json :=
  fields.reverse.lookup key

end Json

end Scaffold
