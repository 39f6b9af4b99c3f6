/-!
# Finding text

Where one text stands inside another, and what lies between the places where it stands.
-/

namespace Scaffold.Text

/-- The first place where a part stands. -/
def firstPlace? (part : List Char) : List Char → Option Nat
  | [] => if part.isEmpty then some 0 else none
  | c :: cs => if part.isPrefixOf (c :: cs) then some 0 else (firstPlace? part cs).map (· + 1)

/-- What lies between the places of a separator that is not empty; the first `skip` characters
belong to one. -/
def splitFrom (separator : List Char) : Nat → List Char → List (List Char)
  | _, [] => [[]]
  | skip + 1, _ :: cs => splitFrom separator skip cs
  | 0, c :: cs =>
    if separator.isPrefixOf (c :: cs) then [] :: splitFrom separator (separator.length - 1) cs
    else match splitFrom separator 0 cs with
      | part :: parts => (c :: part) :: parts
      | [] => [[c]]

/-- The parts of a text between the places of a separator, from left to right. -/
def splitAt (separator cs : List Char) : List (List Char) := splitFrom separator 0 cs

/-- How often a part stands in a text, without overlap; the empty one stands everywhere. -/
def countOf (part cs : List Char) : Nat :=
  if part.isEmpty then cs.length + 1 else (splitAt part cs).length - 1

def dropEnd (drops : Char → Bool) (cs : List Char) : List Char :=
  (cs.reverse.dropWhile drops).reverse

end Scaffold.Text
