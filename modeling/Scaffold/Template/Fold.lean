import Scaffold.Template.Eval

/-!
# Constants in expressions

An expression that has a value before its template runs is constant. `Expr.fold` puts constants in
the place of such expressions, from the inside out, so that what can never be reached is gone: the
second part of a decided `and` or `or`, or one branch of a decided inline condition. Only a value
that can be written down takes the place of an expression.
-/

namespace Scaffold.Template.Expr

/-- The value that an expression has before its template runs. -/
def constant? (e : Expr) : Option Value :=
  match e.eval Scope.compiling with
  | .ok h sc => some (sc.memory.value h)
  | .error _ _ => none

/-- The constant in the place of an expression whose value can be written down. -/
def settle (e : Expr) : Expr :=
  match e.constant? with
  | some x => if x.isPlain then .constant x else e
  | none => e

mutual

/-- The expression with constants in the place of what has a value before the template runs. -/
def fold : Expr → Expr
  | .constant x => .constant x
  | .name s => .name s
  | .list items => settle (.list (foldItems items))
  | .tuple items => settle (.tuple (foldItems items))
  | .member e s => settle (.member e.fold s)
  | .item e key => settle (.item e.fold key.fold)
  | .call f args => .call f.fold (foldArguments args)
  | .filter e s args => settle (.filter e.fold s (foldArguments args))
  | .minus e => settle (.minus e.fold)
  | .not e => settle (.not e.fold)
  | .and a b => settle (.and a.fold b.fold)
  | .or a b => settle (.or a.fold b.fold)
  | .compare e rest => settle (.compare e.fold (foldRest rest))
  | .ifElse line test yes no => settle (.ifElse line test.fold yes.fold (foldElse no))

def foldItems : List Expr → List Expr
  | [] => []
  | e :: es => e.fold :: foldItems es

def foldArguments : List (Option String × Expr) → List (Option String × Expr)
  | [] => []
  | (key, e) :: es => (key, e.fold) :: foldArguments es

def foldRest : List (Comparison × Expr) → List (Comparison × Expr)
  | [] => []
  | (c, e) :: es => (c, e.fold) :: foldRest es

def foldElse : Option Expr → Option Expr
  | none => none
  | some e => some e.fold

end

end Scaffold.Template.Expr
