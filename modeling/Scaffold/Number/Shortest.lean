import Scaffold.Number.Binary64

/-!
# Shortest decimal form of a double

`shortest` finds the fewest decimal digits that read back as the double, and of those the nearest
ones; `Binary64.text` lays them out.
-/

namespace Scaffold.Number

/-- The number `0.d₁d₂… · 10 ^ point`, its digits written as one integer. -/
structure Decimal where
  digits : Nat
  point : Int
  deriving DecidableEq, Repr

namespace Decimal

/-- The least `p` with `num / den < 10 ^ p`, for a positive quotient. -/
def pointFor (num den : Nat) : Int :=
  if den ≤ num then (Binary64.decimalLength (num / den) : Int)
  else
    let zeros := Binary64.decimalLength (den / num)
    -- 10 ^ (zeros - 1) ≤ den / num, so the quotient is at most 10 ^ (1 - zeros)
    if den ≤ num * Nat.pow 10 (zeros - 1) then 2 - (zeros : Int) else 1 - (zeros : Int)

/-- The quotient in units of `10 ^ (point - count)`. -/
def gridRatio (num den : Nat) (point : Int) (count : Nat) : Nat × Nat :=
  match (count : Int) - point with
  | .ofNat e => (num * Nat.pow 10 e, den)
  | .negSucc e => (num, den * Nat.pow 10 (e + 1))

/-- The point of the grid with `count` digits that reads back as `x` and is nearest to it. -/
def onGrid? (x : Binary64) (num den : Nat) (point : Int) (count : Nat) : Option Nat :=
  let (n, d) := gridRatio num den point count
  let low := n / d
  let reads (k : Nat) : Bool := Binary64.ofDecimal false k (point - count) == x
  match reads low, reads (low + 1) with
  | true, true =>
    let twice := 2 * (n % d)
    some (if twice < d ∨ (twice = d ∧ low % 2 = 0) then low else low + 1)
  | true, false => some low
  | false, true => some (low + 1)
  | false, false => none

/-- Tries `count`, `count + 1`, … digits, at most `tries` times. -/
def search (x : Binary64) (num den : Nat) (point : Int) : Nat → Nat → Decimal
  | 0, count => ⟨num, count⟩
  | tries + 1, count => match onGrid? x num den point count with
    | some k =>
      if k = Nat.pow 10 count then ⟨1, point + 1⟩ else ⟨k, point⟩
    | none => search x num den point tries (count + 1)

/-- The shortest digits of the positive double `mantissa · 2 ^ exponent`; seventeen always do. -/
def shortest (mantissa : Nat) (exponent : Int) : Decimal :=
  let (num, den) := Binary64.ratio mantissa exponent
  search (.finite false mantissa exponent) num den (pointFor num den) 17 1

def exponentDigits (n : Nat) : List Char :=
  if n < 10 then '0' :: Nat.toDigits 10 n else Nat.toDigits 10 n

/-- Positional from `0.0001` up to sixteen digits before the point, and else with a signed exponent
of two digits or more. -/
def layout (x : Decimal) : List Char :=
  let ds := Nat.toDigits 10 x.digits
  if x.point ≤ -4 ∨ 16 < x.point then
    let e := x.point - 1
    let mantissa := match ds with
      | d :: rest@(_ :: _) => d :: '.' :: rest
      | short => short
    mantissa ++ 'e' :: (if e < 0 then '-' else '+') :: exponentDigits e.natAbs
  else if x.point ≤ 0 then
    '0' :: '.' :: List.replicate x.point.natAbs '0' ++ ds
  else
    let whole := x.point.toNat
    if ds.length ≤ whole then ds ++ List.replicate (whole - ds.length) '0' ++ ['.', '0']
    else ds.take whole ++ '.' :: ds.drop whole

end Decimal

/-- The text of a double; a whole one shows `.0`. -/
def Binary64.text : Binary64 → List Char
  | .finite negative m e =>
    let body := if m = 0 then ['0', '.', '0'] else (Decimal.shortest m e).layout
    if negative then '-' :: body else body
  | .infinite negative => if negative then ['-', 'i', 'n', 'f'] else ['i', 'n', 'f']
  | .nan => ['n', 'a', 'n']

def intText (n : Int) : List Char :=
  if n < 0 then '-' :: Nat.toDigits 10 n.natAbs else Nat.toDigits 10 n.natAbs

end Scaffold.Number
