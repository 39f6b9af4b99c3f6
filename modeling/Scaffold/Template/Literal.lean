import Scaffold.Number.Binary64
import Scaffold.Template.Trouble
import Scaffold.Text.CharacterName
import Scaffold.Text.Content
import Scaffold.Text.Digit
import Scaffold.Text.Quoted

/-!
# Literals in expressions

Numbers with low lines between digits, and texts with backslash escapes. Every function takes a
literal off the front of a text and gives what is left.
-/

namespace Scaffold.Template

open Number

/-! ## Numbers

Decimal digits may be of any script, but for the first digit of an integer. A number with a fraction
or an exponent is recognized with all of them, but read only if they are ASCII. -/

/-- Digits of a class with single low lines between them; the low lines are dropped. A low line
that no digit follows is left. -/
def digitRun (digit : Char → Bool) : List Char → List Char × List Char
  | [] => ([], [])
  | '_' :: c :: cs =>
    if digit c then
      let (ds, rest) := digitRun digit cs
      (c :: ds, rest)
    else ([], '_' :: c :: cs)
  | c :: cs =>
    if digit c then
      let (ds, rest) := digitRun digit cs
      (c :: ds, rest)
    else ([], c :: cs)

def decimal? (cs : List Char) : Option (List Char × List Char) :=
  match cs with
  | c :: _ => if Text.isDecimalDigit c then some (digitRun Text.isDecimalDigit cs) else none
  | [] => none

def digitOf (c : Char) : Nat := (Text.digitValue? c).getD (c.toLower.toNat - 'a'.toNat + 10)

def valueIn (base : Nat) (ds : List Char) : Nat := ds.foldl (fun n d => n * base + digitOf d) 0

def exponent? (cs : List Char) : Option (Bool × List Char × List Char) :=
  match cs with
  | e :: cs =>
    if e = 'e' ∨ e = 'E' then
      let (negative, cs) := match cs with
        | '-' :: cs => (true, cs)
        | '+' :: cs => (false, cs)
        | cs => (false, cs)
      (decimal? cs).map fun (ds, rest) => (negative, ds, rest)
    else none
  | [] => none

def fraction? : List Char → Option (List Char × List Char)
  | '.' :: cs => decimal? cs
  | _ => none

/-- The double that the parts of a number write. -/
def floatOf (whole part : List Char) (negative : Bool) (exponent : List Char) :
    Except Flaw Binary64 :=
  if (whole ++ part ++ exponent).all Char.isDigit then
    let e : Int := valueIn 10 exponent
    .ok (.ofDecimal false (valueIn 10 (whole ++ part)) ((if negative then -e else e) - part.length))
  else .error .foreignDigits

/-- A number with a fraction, an exponent or both. -/
def float? (cs : List Char) : Option (Except Flaw Binary64 × List Char) := do
  let (whole, cs) ← decimal? cs
  match fraction? cs with
  | some (part, cs) => match exponent? cs with
    | some (negative, e, rest) => some (floatOf whole part negative e, rest)
    | none => some (floatOf whole part false [], cs)
  | none => do
    let (negative, e, rest) ← exponent? cs
    some (floatOf whole [] negative e, rest)

/-- Digits after a zero and the letter of a base; a low line may come first. -/
def based? (base : Nat) (digit : Char → Bool) (cs : List Char) : Option (Nat × List Char) :=
  match digitRun digit cs with
  | ([], _) => none
  | (ds, rest) => some (valueIn base ds, rest)

def isHexLetter (c : Char) : Bool := 'a' ≤ c.toLower && c.toLower ≤ 'f'

def isHexDigit (c : Char) : Bool := c.isDigit || isHexLetter c

/-- The most digits that an integer in base ten is read with. -/
def decimalLimit : Nat := 4300

def integerOf (ds : List Char) : Except Flaw Nat :=
  if decimalLimit < ds.length then .error .longInteger else .ok (valueIn 10 ds)

/-- An integer: in base two, eight or sixteen, in base ten without leading zeros, or zeros. -/
def int? (cs : List Char) : Option (Except Flaw Nat × List Char) :=
  match cs with
  | '0' :: tail =>
    let inBase := match tail with
      | b :: ds =>
        if b = 'b' ∨ b = 'B' then based? 2 (fun c => c = '0' || c = '1') ds
        else if b = 'o' ∨ b = 'O' then based? 8 (fun c => '0' ≤ c && c ≤ '7') ds
        else if b = 'x' ∨ b = 'X' then
          based? 16 (fun c => Text.isDecimalDigit c || isHexLetter c) ds
        else none
      | [] => none
    let (zeros, rest) := digitRun (· = '0') cs
    (inBase.map fun (n, rest) => (.ok n, rest)).or (some (integerOf zeros, rest))
  | c :: _ =>
    if c.isDigit then (decimal? cs).map fun (ds, rest) => (integerOf ds, rest) else none
  | [] => none

/-! ## Texts -/

/-- The characters up to the closing quote and what follows it; a backslash keeps the next
character from closing. -/
def untilQuote (quote : Char) : List Char → Option (List Char × List Char)
  | [] => none
  | ['\\'] => none
  | '\\' :: c :: cs => (untilQuote quote cs).map fun (body, rest) => ('\\' :: c :: body, rest)
  | c :: cs =>
    if c = quote then some ([], cs)
    else (untilQuote quote cs).map fun (body, rest) => (c :: body, rest)

/-- A character beyond ASCII as its escape. -/
def asciiForm (c : Char) : List Char := if c.toNat < 0x80 then [c] else Text.codeEscape c

def shortEscape? (c : Char) : Option (List Char) :=
  [('\n', []), ('\\', ['\\']), ('\'', ['\'']), ('"', ['"']), ('a', ['\x07']), ('b', ['\x08']),
    ('f', ['\x0c']), ('n', ['\n']), ('r', ['\r']), ('t', ['\t']), ('v', ['\x0b'])].lookup c

/-- How many hexadecimal digits follow the letter of a code escape. -/
def codeWidth? (c : Char) : Option Nat := [('x', 2), ('u', 4), ('U', 8)].lookup c

def isOctalDigit (c : Char) : Bool := '0' ≤ c && c ≤ '7'

/-- Where the reading of an escaped text stands. -/
inductive Escape where
  | none
  | slash
  /-- After the letter that asks for a name in braces. -/
  | nameStart
  /-- Inside a name, last character first. -/
  | name (read : List Char)
  /-- Hexadecimal digits: how many are still to come, and the value so far. -/
  | code (left value : Nat)
  /-- Octal digits: how many may still come, and the value so far. -/
  | octal (left value : Nat)

/-- Reads escapes into code points. An escape that is not known stands for itself; one that is cut
short, names no character or goes beyond the last code point is malformed. -/
def unescape : Escape → List Char → Option (List Nat)
  | .none, [] => some []
  | .octal _ value, [] => some [value]
  | _, [] => none
  | .none, c :: cs =>
    if c = '\\' then unescape .slash cs else (unescape .none cs).map (c.toNat :: ·)
  | .slash, c :: cs =>
    match shortEscape? c, codeWidth? c with
    | some out, _ => (unescape .none cs).map (out.map Char.toNat ++ ·)
    | none, some width => unescape (.code width 0) cs
    | none, none =>
      if isOctalDigit c then unescape (.octal 2 (digitOf c)) cs
      else if c = 'N' then unescape .nameStart cs
      else (unescape .none cs).map ('\\'.toNat :: c.toNat :: ·)
  | .nameStart, c :: cs => if c = '\x7b' then unescape (.name []) cs else none
  | .name read, c :: cs =>
    if c = '\x7d' then do
      let d ← Text.named? (String.ofList read.reverse)
      let rest ← unescape .none cs
      some (d.toNat :: rest)
    else unescape (.name (c :: read)) cs
  | .code left value, c :: cs =>
    if isHexDigit c then
      let value := value * 16 + digitOf c
      if left ≤ 1 then
        if value < 0x110000 then (unescape .none cs).map (value :: ·) else none
      else unescape (.code (left - 1) value) cs
    else none
  | .octal left value, c :: cs =>
    if isOctalDigit c ∧ left ≠ 0 then unescape (.octal (left - 1) (value * 8 + digitOf c)) cs
    else do
      let rest ← if c = '\\' then unescape .slash cs else (unescape .none cs).map (c.toNat :: ·)
      some (value :: rest)

/-- What a quoted text says. A character beyond ASCII is read as its escape, so that after a
backslash it stands for the letters of that escape. -/
def textValue? (body : List Char) : Option Content := do
  let codes ← unescape .none (body.flatMap asciiForm)
  let points ← codes.mapM CodePoint.ofNat?
  some ⟨points⟩

end Scaffold.Template
