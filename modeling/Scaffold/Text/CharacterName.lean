import Scaffold.Text.Names.Alphabets
import Scaffold.Text.Names.OldScripts
import Scaffold.Text.Names.Others
import Scaffold.Text.Names.Scripts
import Scaffold.Text.Names.Signs
import Scaffold.Text.Names.Symbols
import Scaffold.Text.Ranges

/-!
# Characters by name

`named?` finds the character that has a name in the Unicode character database, version 14. Names
from the tables are found in upper and lower case. The names of ideographs and of Hangul syllables
follow rules; they are known in upper case only.
-/

namespace Scaffold.Text.Names

/-! ## Names by rule -/

def hexValue? (c : Char) : Option Nat :=
  if c.isDigit then some (c.toNat - '0'.toNat)
  else if 'A' ≤ c ∧ c ≤ 'F' then some (c.toNat - 'A'.toNat + 10)
  else none

def hex? (cs : List Char) : Option Nat :=
  cs.foldlM (fun n c => (hexValue? c).map fun d => n * 16 + d) 0

def ideographs : CodeRanges := [
  (0x3400, 0x4dbf), (0x4e00, 0x9fff), (0x20000, 0x2a6df), (0x2a700, 0x2b738), (0x2b740, 0x2b81d),
  (0x2b820, 0x2cea1), (0x2ceb0, 0x2ebe0), (0x30000, 0x3134a)]

/-- A unified ideograph is named by its code point, in four or five digits. -/
def ideograph? (cs : List Char) : Option Nat := do
  let ds ← "CJK UNIFIED IDEOGRAPH-".toList.isPrefixOf? cs
  if ds.length ≠ 4 ∧ ds.length ≠ 5 then none
  else (hex? ds).filter fun n => ideographs.contains n

def leads : List String :=
  ["G", "GG", "N", "D", "DD", "R", "M", "B", "BB", "S", "SS", "", "J", "JJ", "C", "K", "T", "P",
    "H"]

def vowels : List String :=
  ["A", "AE", "YA", "YAE", "EO", "E", "YEO", "YE", "O", "WA", "WAE", "OE", "YO", "U", "WEO", "WE",
    "WI", "YU", "EU", "YI", "I"]

def trails : List String :=
  ["", "G", "GG", "GS", "N", "NJ", "NH", "D", "L", "LG", "LM", "LB", "LS", "LT", "LP", "LH", "M",
    "B", "BS", "S", "SS", "NG", "J", "C", "K", "T", "P", "H"]

/-- The longest of the names at the front of a text: its number and what follows it. -/
def longest? (names : List String) (cs : List Char) : Option (Nat × List Char) :=
  names.zipIdx.foldl (fun best (name, i) =>
    match name.toList.isPrefixOf? cs, best with
    | some rest, some (_, shortest) =>
      if rest.length < shortest.length then some (i, rest) else best
    | some rest, none => some (i, rest)
    | none, _ => best) none

/-- A Hangul syllable is named by its parts. -/
def syllable? (cs : List Char) : Option Nat := do
  let cs ← "HANGUL SYLLABLE ".toList.isPrefixOf? cs
  let (l, cs) ← longest? leads cs
  let (v, cs) ← longest? vowels cs
  let (t, cs) ← longest? trails cs
  if cs.isEmpty then some (0xac00 + (l * 21 + v) * 28 + t) else none

/-- Characters that are named by their code point, in as few digits as it has but at least four:
what goes before the digits, and which they are. -/
def numbered : List (String × CodeRanges) := [
  ("CJK COMPATIBILITY IDEOGRAPH-", [(0xf900, 0xfa6d), (0xfa70, 0xfad9), (0x2f800, 0x2fa1d)]),
  ("KHITAN SMALL SCRIPT CHARACTER-", [(0x18b00, 0x18cd5)]),
  ("NUSHU CHARACTER-", [(0x1b170, 0x1b2fb)])]

def numbered? (cs : List Char) : Option Nat :=
  numbered.findSome? fun (start, codes) => do
    let ds ← start.toList.isPrefixOf? cs
    if ds.head? = some '0' then none else (hex? ds).filter fun n => codes.contains n

/-! ## Names in tables -/

/-- Where the reading of a table stands: the last code point and the words of its name. -/
structure Place where
  code : Nat
  words : List String

/-- Reads one entry of a table; blanks before it do not count. -/
def Place.next (p : Place) (entry : String) : Place :=
  let cs := entry.toList.dropWhile Char.isWhitespace
  let (code, cs) := match cs.span (· ≠ '=') with
    | (ds, _ :: rest) => ((hex? ds).getD 0, rest)
    | (_, []) => (p.code + 1, cs)
  match cs with
  | [] => p
  | shared :: rest =>
    let words := if rest.isEmpty then [] else (String.ofList rest).splitOn " "
    ⟨code, p.words.take ((hexValue? shared).getD 0) ++ words⟩

def findFrom (name : List String) : Place → List String → Option Nat
  | _, [] => none
  | p, entry :: rest =>
    let p := p.next entry
    if p.words = name then some p.code else findFrom name p rest

/-- The code point that has a name in a table. -/
def find? (name : List String) (table : String) : Option Nat :=
  findFrom name ⟨0, []⟩ (table.splitOn ";")

/-- The code point with a name in capitals. -/
def inTables? (name : String) : Option Nat :=
  let words := name.splitOn " "
  [alphabets, symbols, scripts, oldScripts, signs, others].findSome? (find? words)

end Names

/-- The character with a name, if there is one. -/
def named? (name : String) : Option Char :=
  let cs := name.toList
  let capitals := cs.map Char.toUpper
  let code? := ((Names.ideograph? cs).or (Names.syllable? cs)).or
    ((Names.numbered? capitals).or (Names.inTables? (String.ofList capitals)))
  code?.map Char.ofNat

end Scaffold.Text
