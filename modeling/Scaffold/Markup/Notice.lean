import Scaffold.Markup.Literal
import Scaffold.Markup.Style
import Scaffold.Markup.Tag

/-!
# Notices

A notice is shown only if its markup is sound: every closing tag finds an open one of the same
style, and the parameters of an action, which is a tag with an at sign, can be read when it is
closed. Tags may be left open, and one may be closed across others.
-/

namespace Scaffold.Markup

/-- An open tag: its style in its one spelling, and its parameters. -/
structure OpenTag where
  style : String
  parameters? : Option (List Char)
  deriving DecidableEq, Repr

/-- Takes the innermost open tag of a style out. -/
def takeOut? (style : String) : List OpenTag → Option (OpenTag × List OpenTag)
  | [] => none
  | t :: rest =>
    if t.style = style then some (t, rest)
    else (takeOut? style rest).map fun (found, others) => (found, t :: others)

/-- The parameters of an action without its name, if they begin with one. -/
def argumentsOf (parameters : List Char) : List Char :=
  let cs := Text.trim parameters
  match cs.span fun c => Text.isNameContinue c || c = '.' with
  | (_, []) => ['(', ')']
  | (_, '(' :: rest) => if rest.getLast? = some ')' && !rest.contains '\n' then '(' :: rest else cs
  | _ => cs

/-- What a tag does when it is closed is readable. -/
def OpenTag.isReadable (t : OpenTag) : Bool :=
  match t.style.toList, t.parameters? with
  | '@' :: _, some (c :: cs) => Literal.isLiteral (argumentsOf (c :: cs))
  | _, _ => true

/-- Goes through tags with the given ones open, innermost first. -/
def checkFrom : List OpenTag → List Tag → Except Blemish Unit
  | _, [] => .ok ()
  | stack, t :: rest => do
    match t.closes? with
    | none =>
      let style ← Style.normal t.name
      checkFrom (⟨style, t.parameters?⟩ :: stack) rest
    | some name =>
      let closed ← if name.isEmpty then .ok (stack.head?.map fun t => (t, stack.tail))
        else (Style.normal name).map fun style => takeOut? style stack
      match closed with
      | none => .error .tag
      | some (t, others) => if t.isReadable then checkFrom others rest else .error .tag

/-- Whether a marked up text can be shown. -/
def check (text : String) : Except Blemish Unit := checkFrom [] (Tag.list text.toList)

end Scaffold.Markup
