import Scaffold.Template.Argument
import Scaffold.Text.Case
import Scaffold.Text.Find
import Scaffold.Text.Replace

/-!
# Methods of texts

What the methods of texts do: letter case, trimming, looking for parts, and taking apart and putting
together. The other methods are known by name only, and calling them is beyond what is read here.
-/

namespace Scaffold.Template

open Text

namespace Memory

def textResult (m : Memory) (cs : List Char) : CallResult := .ok (text (String.ofList cs), m)

def truthResult (m : Memory) (b : Bool) : CallResult := .ok (.plain (.bool b), m)

/-- The characters that are trimmed off; without any, blanks are. -/
def trimmed? : List Value → Option (Char → Bool)
  | [] | [.null] => some isBlank
  | [.str s] => some s.toList.contains
  | _ => none

/-- Changes a text by what is trimmed off. -/
def trimResult (m : Memory) (args : List Value) (f : (Char → Bool) → List Char) : CallResult :=
  match trimmed? args with
  | some drops => m.textResult (f drops)
  | none => .error .beyond

/-- One of the texts that a value offers passes a test: the value is a text or a tuple of texts. -/
def anyOffered (x : Value) (test : List Char → Bool) : Except Trouble Bool :=
  match x with
  | .str s => .ok (test s.toList)
  | .tuple items => items.foldlM (fun found item => match found, item with
    | true, _ => .ok true
    | false, .str s => .ok (test s.toList)
    | false, _ => .error .typeMismatch) false
  | _ => .error .typeMismatch

def textsResult (m : Memory) (parts : List (List Char)) : CallResult :=
  .ok (m.add (.list (parts.map fun cs => text (String.ofList cs))))

/-- Puts texts together with another one between them. -/
def joined (m : Memory) (between : String) (h : Handle) : CallResult := do
  let (items, m) ← m.elements h
  let parts ← items.mapM fun item => match m.value item with
    | .str s => .ok s
    | _ => .error .typeMismatch
  .ok (text (between.intercalate parts), m)

/-- How often a method replaces at most; a negative number sets no limit. -/
def limitArgument (m : Memory) (h : Handle) : Except Trouble (Option Nat) := do
  let i ← m.placeArgument h
  .ok (if i < 0 then none else some i.toNat)

/-- The methods that only look at the text and at their arguments as they are now. -/
def callLooking (m : Memory) (cs : List Char) (name : String) (args : List Value) : CallResult :=
  match name, args with
  | "upper", [] => m.textResult (cs.flatMap upperChar)
  | "lower", [] => m.textResult (lower cs)
  | "strip", args => m.trimResult args fun drops => dropEnd drops (cs.dropWhile drops)
  | "lstrip", args => m.trimResult args fun drops => cs.dropWhile drops
  | "rstrip", args => m.trimResult args fun drops => dropEnd drops cs
  | "startswith", [x] => do m.truthResult (← anyOffered x fun part => part.isPrefixOf cs)
  | "endswith", [x] => do m.truthResult (← anyOffered x fun part => part.isSuffixOf cs)
  | "removeprefix", [.str s] => m.textResult ((s.toList.isPrefixOf? cs).getD cs)
  | "removesuffix", [.str s] =>
    m.textResult (((s.toList.reverse.isPrefixOf? cs.reverse).map List.reverse).getD cs)
  | "count", [.str s] => .ok (number (countOf s.toList cs), m)
  | "find", [.str s] =>
    .ok (.plain (.int (((firstPlace? s.toList cs).map Int.ofNat).getD (-1))), m)
  | "index", [.str s] => match firstPlace? s.toList cs with
    | some n => .ok (number n, m)
    | none => .error (.badValue "substring not found")
  | "split", [] | "split", [.null] =>
    m.textsResult ((cs.splitOnP isBlank).filter (!·.isEmpty))
  | "split", [.str s] =>
    if s.isEmpty then .error (.badValue "empty separator") else m.textsResult (splitAt s.toList cs)
  | "__len__", [] => .ok (number cs.length, m)
  | "__contains__", [.str s] => m.truthResult (firstPlace? s.toList cs).isSome
  | _, _ => .error .beyond

def callText (m : Memory) (s : String) (name : String) (args : Arguments) : CallResult :=
  match name, args.values, args.options with
  | "join", [h], [] => m.joined s h
  | "replace", [old, new], [] => replaced old new none
  | "replace", [old, new, count], [] => do replaced old new (← m.limitArgument count)
  | name, values, [] => m.callLooking s.toList name (values.map m.value)
  | _, _, _ => .error .beyond
where
  /-- The text with one part in the place of another. -/
  replaced (old new : Handle) (limit : Option Nat) : CallResult :=
    match m.value old, m.value new with
    | .str old, .str new => m.textResult (Text.replace old.toList new.toList limit s.toList)
    | _, _ => .error .typeMismatch

end Memory

end Scaffold.Template
