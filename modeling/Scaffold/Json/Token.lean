import Scaffold.Json.Basic

/-!
# JSON tokens

`Token.scan` cuts a text into punctuation, texts and plain values. It is strict: a control inside a
text, an unknown escape or half of a surrogate pair ends the scan, and so does a word or a number
that JSON does not know. The words `NaN` and `Infinity` are numbers.
-/

namespace Scaffold.Json

open Number

inductive Token where
  | openArray
  | closeArray
  | openObject
  | closeObject
  | comma
  | colon
  /-- A number, a word or a text. Of a number, `whole` counts the characters before its fraction
  and exponent; of everything else it is zero. -/
  | plain (x : Json) (whole : Nat)
  deriving Repr

namespace Token

def spanDigits (cs : List Char) : List Char × List Char := cs.span Char.isDigit

def digitsValue (ds : List Char) : Nat := Nat.ofDigitChars 10 ds 0

/-- The exponent that ends a number; nothing is exponent zero. -/
def exponent? : List Char → Option Int
  | [] => some 0
  | e :: cs =>
    if e = 'e' ∨ e = 'E' then
      let (negative, ds) := match cs with
        | '-' :: ds => (true, ds)
        | '+' :: ds => (false, ds)
        | ds => (false, ds)
      if ds.isEmpty ∨ ds.any (!·.isDigit) then none
      else some (if negative then -(digitsValue ds : Int) else digitsValue ds)
    else none

/-- What follows the whole part of a number: a fraction, an exponent, or both. -/
def fraction? (negative : Bool) (whole : List Char) : List Char → Option Json
  | '.' :: cs =>
    let (ds, rest) := spanDigits cs
    if ds.isEmpty then none
    else do
      let e ← exponent? rest
      some (float (.ofDecimal negative (digitsValue (whole ++ ds)) (e - ds.length)))
  | rest => do
    let e ← exponent? rest
    some (float (.ofDecimal negative (digitsValue whole) e))

/-- A number without its sign. A leading zero stands alone. -/
def magnitude? (negative : Bool) (cs : List Char) : Option Json :=
  let (whole, rest) := spanDigits cs
  if whole.isEmpty ∨ (whole.head? = some '0' ∧ whole.length ≠ 1) then none
  else if rest.isEmpty then
    let n : Int := digitsValue whole
    some (int (if negative then -n else n))
  else fraction? negative whole rest

def plain? (cs : List Char) : Option Json :=
  if cs = "true".toList then some (bool true)
  else if cs = "false".toList then some (bool false)
  else if cs = "null".toList then some null
  else if cs = "NaN".toList then some (float .nan)
  else if cs = "Infinity".toList then some (float (.infinite false))
  else if cs = "-Infinity".toList then some (float (.infinite true))
  else match cs with
    | '-' :: rest => magnitude? true rest
    | _ => magnitude? false cs

/-- The characters of a number before its fraction and exponent, its sign among them. -/
def wholeLength (cs : List Char) : Nat :=
  if cs.any Char.isDigit then (cs.takeWhile fun c => c = '-' || c.isDigit).length else 0

def word? (cs : List Char) : Option Token := (plain? cs).map fun x => .plain x (wholeLength cs)

def hexValue? (c : Char) : Option Nat :=
  if c.isDigit then some (c.toNat - '0'.toNat)
  else if 'a' ≤ c ∧ c ≤ 'f' then some (c.toNat - 'a'.toNat + 10)
  else if 'A' ≤ c ∧ c ≤ 'F' then some (c.toNat - 'A'.toNat + 10)
  else none

/-- Where the scan stands. Characters read so far are kept last first. -/
inductive Mode where
  /-- Between tokens. -/
  | between
  /-- Inside a number or a word. -/
  | word (read : List Char)
  /-- Inside a text. -/
  | text (read : List Char)
  /-- After a backslash; `high` is the first half of a surrogate pair that waits for its second. -/
  | escape (high : Option Nat) (read : List Char)
  /-- Inside the hexadecimal digits of an escape, `left` of them to come. -/
  | code (left value : Nat) (high : Option Nat) (read : List Char)
  /-- After the first half of a surrogate pair. -/
  | pair (high : Nat) (read : List Char)

def isWordChar (c : Char) : Bool := c.isAlphanum || c = '+' || c = '-' || c = '.'

def between? (c : Char) : Option (List Token × Mode) :=
  if c = ' ' ∨ c = '\t' ∨ c = '\n' ∨ c = '\r' then some ([], .between)
  else if c = '[' then some ([openArray], .between)
  else if c = ']' then some ([closeArray], .between)
  else if c = '\x7b' then some ([openObject], .between)
  else if c = '\x7d' then some ([closeObject], .between)
  else if c = ',' then some ([comma], .between)
  else if c = ':' then some ([colon], .between)
  else if c = '"' then some ([], .text [])
  else if isWordChar c then some ([], .word [c])
  else none

/-- The character that a one-letter escape stands for. -/
def simpleEscape? (c : Char) : Option Char :=
  [('"', '"'), ('\\', '\\'), ('/', '/'), ('b', '\x08'), ('f', '\x0c'), ('n', '\n'), ('r', '\r'),
    ('t', '\t')].lookup c

/-- A complete code unit inside a text. -/
def unit? (unit : Nat) (read : List Char) : Option Nat → Option Mode
  | none =>
    if 0xd800 ≤ unit ∧ unit < 0xdc00 then some (.pair unit read)
    else if 0xdc00 ≤ unit ∧ unit < 0xe000 then none
    else some (.text (Char.ofNat unit :: read))
  | some high =>
    if 0xdc00 ≤ unit ∧ unit < 0xe000 then
      some (.text (Char.ofNat (0x10000 + (high - 0xd800) * 0x400 + (unit - 0xdc00)) :: read))
    else none

/-- One character further: the tokens it completes and the new place. -/
def next? (c : Char) : Mode → Option (List Token × Mode)
  | .between => between? c
  | .word read =>
    if isWordChar c then some ([], .word (c :: read))
    else do
      let token ← word? read.reverse
      let (tokens, mode) ← between? c
      some (token :: tokens, mode)
  | .text read =>
    if c = '"' then some ([plain (str (String.ofList read.reverse)) 0], .between)
    else if c = '\\' then some ([], .escape none read)
    else if c.toNat < 0x20 then none
    else some ([], .text (c :: read))
  | .escape high read =>
    if c = 'u' then some ([], .code 4 0 high read)
    else match high with
      | none => do
        let d ← simpleEscape? c
        some ([], .text (d :: read))
      | some _ => none
  | .code left value high read => do
    let d ← hexValue? c
    let value := value * 16 + d
    if left ≤ 1 then
      let mode ← unit? value read high
      some ([], mode)
    else some ([], .code (left - 1) value high read)
  | .pair high read => if c = '\\' then some ([], .escape (some high) read) else none

def scanFrom : Mode → List Char → Option (List Token)
  | .between, [] => some []
  | .word read, [] => do
    let token ← word? read.reverse
    some [token]
  | _, [] => none
  | mode, c :: cs => do
    let (tokens, mode) ← next? c mode
    let rest ← scanFrom mode cs
    some (tokens ++ rest)

def scan (cs : List Char) : Option (List Token) := scanFrom .between cs

end Token

end Scaffold.Json
