import Scaffold.Text.Blank

/-!
# Markup tags

Notices are marked up with tags in square brackets: `[red]` opens a style, `[/red]` closes it and
`[/]` closes the one opened last. A tag begins with a lower-case letter, a hash, a slash or an at
sign, holds no second opening bracket, and may carry parameters after an equals sign. A backslash in
front takes a tag its meaning, a pair of them stands for a backslash.
-/

namespace Scaffold.Markup

structure Tag where
  name : List Char
  parameters? : Option (List Char)
  deriving DecidableEq, Repr

namespace Tag

/-- The character may stand first in a tag. -/
def isFirst (c : Char) : Bool := ('a' ≤ c && c ≤ 'z') || c = '#' || c = '/' || c = '@'

/-- A tag takes its parameters from after the first equals sign. -/
def ofBody (body : List Char) : Tag :=
  match body.span (· ≠ '=') with
  | (name, _ :: parameters) => ⟨name, some parameters⟩
  | (name, []) => ⟨name, none⟩

/-- The inside of a tag up to its closing bracket, and what follows. -/
def body? : List Char → Option (List Char × List Char)
  | [] => none
  | c :: cs =>
    if !isFirst c then none
    else match cs.span fun d => d ≠ '[' && d ≠ ']' with
      | (body, ']' :: rest) => some (c :: body, rest)
      | _ => none

/-- The tags of a text in at most `fuel` steps; `escapes` counts the backslashes just before it. -/
def listFrom : Nat → Nat → List Char → List Tag
  | 0, _, _ => []
  | _, _, [] => []
  | fuel + 1, escapes, c :: cs =>
    if c = '\\' then listFrom fuel (escapes + 1) cs
    else if c = '[' then
      match body? cs with
      | none => listFrom fuel 0 cs
      | some (body, rest) =>
        let more := listFrom fuel 0 rest
        if escapes % 2 = 0 then ofBody body :: more else more
    else listFrom fuel 0 cs

/-- The tags of a text in their order. -/
def list (cs : List Char) : List Tag := listFrom (cs.length + 1) 0 cs

/-- The name of the style that a tag closes; it is empty if that is the one opened last. -/
def closes? (t : Tag) : Option (List Char) :=
  match t.name with
  | '/' :: name => some (Text.trim name)
  | _ => none

end Tag

end Scaffold.Markup
