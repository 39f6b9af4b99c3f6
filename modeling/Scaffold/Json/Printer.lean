import Scaffold.Json.Basic
import Scaffold.Number.Shortest
import Scaffold.Text.Quoted

/-!
# Printed JSON

`Json.pretty` puts every item on a line of its own, two spaces deeper than what holds it, and leaves
empty containers on one line. Only the quote, the backslash and the controls below the space are
escaped.
-/

namespace Scaffold.Json

open Number Text

def escapedChar (c : Char) : List Char :=
  if c = '"' ∨ c = '\\' then ['\\', c]
  else if c = '\n' then ['\\', 'n']
  else if c = '\r' then ['\\', 'r']
  else if c = '\t' then ['\\', 't']
  else if c = '\x08' then ['\\', 'b']
  else if c = '\x0c' then ['\\', 'f']
  else if c.toNat < 0x20 then '\\' :: 'u' :: hexDigits 4 c.toNat
  else [c]

def stringChars (s : String) : List Char := '"' :: s.toList.flatMap escapedChar ++ ['"']

def floatChars : Binary64 → List Char
  | .infinite negative => (if negative then "-Infinity" else "Infinity").toList
  | .nan => "NaN".toList
  | x => x.text

def newLine (depth : Nat) : List Char := '\n' :: List.replicate (2 * depth) ' '

mutual

/-- The text of a value that stands at the given depth. -/
def chars (depth : Nat) : Json → List Char
  | null => "null".toList
  | bool true => "true".toList
  | bool false => "false".toList
  | int n => intText n
  | float x => floatChars x
  | str s => stringChars s
  | arr [] => ['[', ']']
  | arr (x :: xs) =>
    '[' :: newLine (depth + 1) ++ chars (depth + 1) x ++ moreItems (depth + 1) xs
      ++ newLine depth ++ [']']
  | obj [] => ['\x7b', '\x7d']
  | obj (f :: fs) =>
    '\x7b' :: newLine (depth + 1) ++ fieldChars (depth + 1) f ++ moreFields (depth + 1) fs
      ++ newLine depth ++ ['\x7d']

def fieldChars (depth : Nat) : String × Json → List Char
  | (key, x) => stringChars key ++ ':' :: ' ' :: chars depth x

def moreItems (depth : Nat) : List Json → List Char
  | [] => []
  | x :: xs => ',' :: newLine depth ++ chars depth x ++ moreItems depth xs

def moreFields (depth : Nat) : List (String × Json) → List Char
  | [] => []
  | f :: fs => ',' :: newLine depth ++ fieldChars depth f ++ moreFields depth fs

end

def pretty (x : Json) : String := String.ofList (chars 0 x)

end Scaffold.Json
