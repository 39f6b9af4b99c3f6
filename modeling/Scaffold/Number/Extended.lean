import Scaffold.Number.Binary64

/-!
# Numbers to compare

Integers, truth values and doubles are compared by exact value, without rounding one to the form of
the other. What is no number differs from everything, itself included, and has no order.
-/

namespace Scaffold.Number

/-- A rational, an infinity, or no number. -/
inductive Extended where
  | finite (q : Rat)
  | infinite (negative : Bool)
  | nan
  deriving DecidableEq

namespace Extended

def ofInt (n : Int) : Extended := .finite n

def ofBinary64 : Binary64 → Extended
  | .infinite negative => .infinite negative
  | .nan => .nan
  | x => match x.value? with
    | some q => .finite q
    | none => .nan

def same : Extended → Extended → Bool
  | .nan, _ | _, .nan => false
  | x, y => x = y

def less : Extended → Extended → Bool
  | .finite p, .finite q => p < q
  | .infinite true, .finite _ | .finite _, .infinite false => true
  | .infinite true, .infinite false => true
  | _, _ => false

end Extended

end Scaffold.Number
