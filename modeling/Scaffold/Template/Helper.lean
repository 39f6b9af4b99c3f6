import Scaffold.Template.Value
import Scaffold.Json.Printer
import Scaffold.Text.Case
import Scaffold.Text.Replace

/-!
# Helpers and filters

What the functions of a template do. Arguments are matched with parameters by place and then by
name; a call that does not match is a type mismatch.
-/

namespace Scaffold.Template

open Text

/-- Arguments by the parameters that they belong to; a parameter that is left out has no value. -/
def matchArguments (params : List String) (args : List Value) (options : List (String × Value)) :
    Option (List (Option Value)) :=
  let named := params.drop args.length
  if params.length < args.length ∨ options.any (fun o => !named.contains o.1) then none
  else some (args.map some ++ named.map fun key => options.lookup key)

namespace Value

/-- Equality that keeps truth values apart from everything else; only the outermost value is looked
at in this way. -/
def strictlySame : Value → Value → Bool
  | .bool a, .bool b => a = b
  | .bool _, _ | _, .bool _ => false
  | x, y => same x y

/-- A list or tuple has an element that is strictly the same; nothing else has elements. -/
def includes : Value → Value → Bool
  | .list items, x | .tuple items, x => items.any fun item => strictlySame item x
  | _, _ => false

/-- A change of a text; there is nothing for other values. -/
def shape (f : List Char → List Char) : Value → String
  | .str s => String.ofList (f s.toList)
  | _ => ""

def shaped (f : List Char → List Char) (x : Value) : Except Trouble Value :=
  if x.isRough then .error .beyond else .ok (.str (x.shape f))

end Value

namespace Helper

/-- The names of the parameters; a helper without them takes any arguments. -/
def parameters? : Helper → Option (List String)
  | eq | ne => some ["a", "b"]
  | includes => some ["array", "value"]
  | .or | .and => none
  | _ => some ["value"]

def applyOne (h : Helper) (x : Value) : Except Trouble Value :=
  match h with
  | .not => .ok (.bool !x.truthy)
  | json => x.toJson.map fun j => .str j.pretty
  | capitalize => x.shaped Text.capitalize
  | pascalCase => x.shaped pascal
  | camelCase => x.shaped camel
  | _ => .error .typeMismatch

def applyTwo (h : Helper) (x y : Value) : Except Trouble Value :=
  match h with
  | eq => .ok (.bool (x.strictlySame y))
  | ne => .ok (.bool !x.strictlySame y)
  | includes => .ok (.bool (x.includes y))
  | _ => .error .typeMismatch

def apply (h : Helper) (args : List Value) (options : List (String × Value)) :
    Except Trouble Value :=
  match h with
  | .or => .ok (.bool (args.any Value.truthy))
  | .and => .ok (.bool (args.all Value.truthy))
  | h => match h.parameters?.bind fun params => matchArguments params args options with
    | some [some x] => applyOne h x
    | some [some x, some y] => applyTwo h x y
    | _ => .error .typeMismatch

end Helper

/-- What may follow a bar in an expression. -/
inductive Filter where
  | helper (h : Helper)
  | replace
  deriving DecidableEq, Repr

namespace Filter

/-- Every helper whose name is no operator is a filter too. -/
def ofName? (s : String) : Option Filter :=
  if s = "replace" then some .replace
  else ((Helper.ofName? s).filter fun h => !h.isOperator).map .helper

/-- Counts of replacements lie below this power of two, the sixty-third. -/
def countLimit : Int := 9223372036854775808

/-- How often to replace: nothing and negative numbers set no limit. -/
def replaceLimit : Option Value → Except Trouble (Option Nat)
  | none | some .null => .ok none
  | some (.int n) =>
    if n < -countLimit ∨ countLimit ≤ n then .error .outOfRange
    else .ok (if n < 0 then none else some n.toNat)
  | some (.bool b) => .ok (some (if b then 1 else 0))
  | _ => .error .typeMismatch

/-- Replaces in the text of any value. -/
def applyReplace (x : Value) (args : List Value) (options : List (String × Value)) :
    Except Trouble Value :=
  match matchArguments ["s", "old", "new", "count"] (x :: args) options with
  | some [some x, some old, some new, count] =>
    if x.hasLongInteger || old.hasLongInteger || new.hasLongInteger then .error .longInteger
    else match x.content.chars?, old.content.chars?, new.content.chars? with
      | some x, some old, some new => do
        let limit ← replaceLimit count
        .ok (.str (String.ofList (Text.replace old new limit x)))
      | _, _, _ => .error .beyond
  | _ => .error .typeMismatch

def apply (f : Filter) (x : Value) (args : List Value) (options : List (String × Value)) :
    Except Trouble Value :=
  match f with
  | .helper h => h.apply (x :: args) options
  | .replace => applyReplace x args options

end Filter

end Scaffold.Template
