import Scaffold.Template.Value

/-!
# Expressions

The expressions of templates: constants and names, lists and tuples, what can follow a value, and
operators. Arguments of calls and filters carry the keyword that they are given with, if any.
-/

namespace Scaffold.Template

inductive Comparison where
  | same
  | differs
  | less
  | lessOrSame
  | greater
  | greaterOrSame
  deriving DecidableEq, Repr

inductive Expr where
  | constant (x : Value)
  | name (s : String)
  | list (items : List Expr)
  | tuple (items : List Expr)
  | member (e : Expr) (name : String)
  | item (e key : Expr)
  | call (f : Expr) (args : List (Option String × Expr))
  | filter (e : Expr) (name : String) (args : List (Option String × Expr))
  | minus (e : Expr)
  | not (e : Expr)
  | and (a b : Expr)
  | or (a b : Expr)
  /-- A chain of comparisons, each with the value before it. -/
  | compare (e : Expr) (rest : List (Comparison × Expr))
  | ifElse (line : Nat) (test yes : Expr) (no : Option Expr)
  deriving Inhabited

/-- What a template calls itself. -/
def selfName : String := "self"

namespace Expr

mutual

/-- How many expressions stand inside each other. What is compared, and what a keyword gives, stands
one deeper. -/
def height : Expr → Nat
  | .constant _ | .name _ => 1
  | .list items | .tuple items => itemsHeight items + 1
  | .member e _ | .minus e | .not e => height e + 1
  | .item e key => max (height e) (height key) + 1
  | .call e args | .filter e _ args => max (height e) (argumentsHeight args) + 1
  | .and a b | .or a b => max (height a) (height b) + 1
  | .compare e rest => max (height e) (restHeight rest) + 1
  | .ifElse _ test yes no => max (max (height test) (height yes)) (elseHeight no) + 1

def itemsHeight : List Expr → Nat
  | [] => 0
  | e :: es => max (height e) (itemsHeight es)

def argumentsHeight : List (Option String × Expr) → Nat
  | [] => 0
  | (key, e) :: es => max (height e + if key.isSome then 1 else 0) (argumentsHeight es)

def restHeight : List (Comparison × Expr) → Nat
  | [] => 0
  | (_, e) :: es => max (height e + 1) (restHeight es)

def elseHeight : Option Expr → Nat
  | none => 0
  | some e => height e

end

mutual

/-- The names in an expression in the order in which they are met; the test of an inline condition
comes first. -/
def names : Expr → List String
  | .constant _ => []
  | .name s => [s]
  | .list items | .tuple items => itemNames items
  | .member e _ | .minus e | .not e => names e
  | .item e key => names e ++ names key
  | .call e args | .filter e _ args => names e ++ argumentNames args
  | .and a b | .or a b => names a ++ names b
  | .compare e rest => names e ++ restNames rest
  | .ifElse _ test yes no => names test ++ names yes ++ elseNames no

def itemNames : List Expr → List String
  | [] => []
  | e :: es => names e ++ itemNames es

def argumentNames : List (Option String × Expr) → List String
  | [] => []
  | (_, e) :: es => names e ++ argumentNames es

def restNames : List (Comparison × Expr) → List String
  | [] => []
  | (_, e) :: es => names e ++ restNames es

def elseNames : Option Expr → List String
  | none => []
  | some e => names e

end

end Expr

end Scaffold.Template
