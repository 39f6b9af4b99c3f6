import Scaffold.Text.Blank
import Scaffold.Text.Identifier

/-!
# Literals in parameters

The parameters of an action are a literal: a number, a quoted text, a word for a value, or a tuple,
set or dictionary of literals. No square bracket gets into a tag, so there are no lists. Nothing is
made of a literal here; `isLiteral` says whether a text is one.
-/

namespace Scaffold.Markup.Literal

/-- What matters about a literal for what may stand around it. -/
inductive Kind where
  /-- A number without a sign. -/
  | real
  | imaginary
  /-- A real number with a sign. -/
  | signed
  /-- Any other value that can be a key. -/
  | key
  /-- A set or a dictionary. -/
  | container
  deriving DecidableEq, Repr

abbrev Reader (α : Type) := List Char → Option (α × List Char)

def isGap (c : Char) : Bool := c = ' ' || c = '\t' || c = '\n' || c = '\x0c'

def skip (cs : List Char) : List Char := cs.dropWhile isGap

/-- The rest after a character that may have gaps before it. -/
def expect (c : Char) (cs : List Char) : Option (List Char) :=
  match skip cs with
  | d :: rest => if c = d then some rest else none
  | [] => none

/-! ## Numbers -/

/-- What is left after digits with single low lines between them. -/
def afterDigits (digit : Char → Bool) : List Char → List Char
  | '_' :: c :: cs => if digit c then afterDigits digit cs else '_' :: c :: cs
  | c :: cs => if digit c then afterDigits digit cs else c :: cs
  | [] => []

def digits? (digit : Char → Bool) : List Char → Option (List Char)
  | c :: cs => if digit c then some (afterDigits digit cs) else none
  | [] => none

def isHexDigit (c : Char) : Bool := c.isDigit || ('a' ≤ c.toLower && c.toLower ≤ 'f')

/-- The digit class of the letter after a zero. -/
def baseDigit? (c : Char) : Option (Char → Bool) :=
  if c.toLower = 'x' then some isHexDigit
  else if c.toLower = 'o' then some fun d => '0' ≤ d && d ≤ '7'
  else if c.toLower = 'b' then some fun d => d = '0' || d = '1'
  else none

def exponent : List Char → Bool × List Char
  | e :: cs =>
    if e.toLower ≠ 'e' then (false, e :: cs)
    else
      let unsigned := match cs with
        | '+' :: ds | '-' :: ds => ds
        | ds => ds
      match digits? Char.isDigit unsigned with
      | some rest => (true, rest)
      | none => (false, e :: cs)
  | [] => (false, [])

/-- A number must end before a name begins. -/
def ended (k : Kind) (cs : List Char) : Option (Kind × List Char) :=
  match cs with
  | c :: _ => if Text.isNameContinue c then none else some (k, cs)
  | [] => some (k, [])

/-- Ends a number in base ten; a whole one has no zeros in front. -/
def decimalEnd (whole : List Char) (isWhole : Bool) (cs : List Char) :
    Option (Kind × List Char) :=
  match cs with
  | j :: rest =>
    if j = 'j' || j = 'J' then ended .imaginary rest
    else if isWhole && leadingZero then none
    else ended .real cs
  | [] => if isWhole && leadingZero then none else some (.real, [])
where
  /-- The whole part begins with a zero but is not zero. -/
  leadingZero : Bool := whole.head? = some '0' && whole.any fun c => c ≠ '0' && c ≠ '_'

def decimal? (cs : List Char) : Option (Kind × List Char) := do
  let (whole, rest) ← match cs with
    | '.' :: _ => some ([], cs)
    | _ => (digits? Char.isDigit cs).map fun rest => (cs.take (cs.length - rest.length), rest)
  let (hasPoint, rest) ← match rest with
    | '.' :: after => match digits? Char.isDigit after with
      | some rest => some (true, rest)
      | none => if whole.isEmpty then none else some (true, after)
    | rest => some (false, rest)
  let (hasExponent, rest) := exponent rest
  decimalEnd whole (!hasPoint && !hasExponent) rest

def number? : Reader Kind
  | '0' :: b :: cs => match baseDigit? b with
    | some digit => do
      let rest ← digits? digit (match cs with | '_' :: ds => ds | ds => ds)
      ended .real rest
    | none => decimal? ('0' :: b :: cs)
  | cs => decimal? cs

/-! ## Texts -/

structure Spelling where
  /-- Backslashes stand for themselves. -/
  raw : Bool
  /-- The text stands for bytes. -/
  bytes : Bool

/-- The spelling that the letters in front of a quote ask for. -/
def spelling? (letters : List Char) : Option Spelling :=
  [([], ⟨false, false⟩), (['u'], ⟨false, false⟩), (['r'], ⟨true, false⟩), (['b'], ⟨false, true⟩),
    (['r', 'b'], ⟨true, true⟩), (['b', 'r'], ⟨true, true⟩)].lookup (letters.map Char.toLower)

/-- The hexadecimal digits that follow the letter of an escape. -/
def escapeWidth (s : Spelling) (c : Char) : Nat :=
  if s.raw then 0
  else if c = 'x' then 2
  else if s.bytes then 0
  else if c = 'u' then 4
  else if c = 'U' then 8
  else 0

/-- What follows a text after its opening quotes, in at most `fuel` steps. -/
def afterText? (s : Spelling) (close : List Char) : Nat → List Char → Option (List Char)
  | 0, _ => none
  | fuel + 1, cs => match close.isPrefixOf? cs, cs with
    | some rest, _ => some rest
    | none, [] => none
    | none, '\\' :: c :: rest =>
      let width := escapeWidth s c
      if (rest.take width).length = width && (rest.take width).all isHexDigit then
        afterText? s close fuel (rest.drop width)
      else none
    | none, c :: rest =>
      if (c = '\n' && close.length = 1) || (s.bytes && 0x80 ≤ c.toNat) then none
      else afterText? s close fuel rest

/-- A quoted text with the letters in front of it; it says whether the text stands for bytes. -/
def text? (cs : List Char) : Option (Bool × List Char) := do
  let (letters, rest) := cs.span Char.isAlpha
  let s ← spelling? letters
  let fuel := cs.length + 1
  match rest with
  | '"' :: '"' :: '"' :: rest => (afterText? s ['"', '"', '"'] fuel rest).map (s.bytes, ·)
  | '\'' :: '\'' :: '\'' :: rest => (afterText? s ['\'', '\'', '\''] fuel rest).map (s.bytes, ·)
  | '"' :: rest => (afterText? s ['"'] fuel rest).map (s.bytes, ·)
  | '\'' :: rest => (afterText? s ['\''] fuel rest).map (s.bytes, ·)
  | _ => none

/-- Further texts right after a text, of the same sort. -/
def moreTexts? (bytes : Bool) : Nat → List Char → Option (List Char)
  | 0, _ => none
  | fuel + 1, cs => match text? (skip cs) with
    | none => some cs
    | some (b, rest) => if b = bytes then moreTexts? bytes fuel rest else none

/-! ## Values -/

def word? (cs : List Char) : Option (Kind × List Char) :=
  match cs.span Text.isNameContinue with
  | (name, rest) =>
    if ["None", "True", "False"].contains (String.ofList name) then some (.key, rest)
    else if name = "set".toList then do
      let rest ← expect '(' rest
      let rest ← expect ')' rest
      some (.container, rest)
    else none

def signed? : Kind → Option Kind
  | .real => some .signed
  | .imaginary => some .key
  | _ => none

/-- A number and an imaginary one put together. -/
def sum? : Kind → Kind → Option Kind
  | .real, .imaginary | .signed, .imaginary => some .key
  | _, _ => none

/-- A tuple is a key if all its items are. -/
def tupleKind (items : List Kind) : Kind :=
  if items.contains .container then .container else .key

mutual

/-- A value: a number with its sign, or two of them put together, or anything else. -/
def value? : Nat → Reader Kind
  | 0, _ => none
  | fuel + 1, cs => do
    let (k, rest) ← operand? fuel true cs
    match skip rest with
    | '+' :: after | '-' :: after =>
      let (l, rest) ← operand? fuel false after
      let k ← sum? k l
      some (k, rest)
    | _ => some (k, rest)

def operand? : Nat → Bool → Reader Kind
  | 0, _, _ => none
  | fuel + 1, signAllowed, cs =>
    match skip cs with
    | '+' :: after | '-' :: after =>
      if signAllowed then do
        let (k, rest) ← operand? fuel false after
        let k ← signed? k
        some (k, rest)
      else none
    | '(' :: after => do
      let (kinds, comma, rest) ← items? fuel ')' after
      match kinds, comma with
      | [k], false => some (k, rest)
      | kinds, _ => some (tupleKind kinds, rest)
    | '\x7b' :: after => braces? fuel after
    | '.' :: '.' :: '.' :: rest => some (.key, rest)
    | cs => ((number? cs).orElse fun _ => quoted? fuel cs).orElse fun _ => word? cs

def quoted? : Nat → Reader Kind
  | 0, _ => none
  | fuel + 1, cs => do
    let (bytes, rest) ← text? cs
    let rest ← moreTexts? bytes fuel rest
    some (.key, rest)

/-- Values up to a closing bracket, and whether a comma stands among them. -/
def items? : Nat → Char → List Char → Option (List Kind × Bool × List Char)
  | 0, _, _ => none
  | fuel + 1, close, cs =>
    match expect close cs with
    | some rest => some ([], false, rest)
    | none => do
      let (k, rest) ← value? fuel cs
      match expect ',' rest with
      | some rest =>
        let (more, _, rest) ← items? fuel close rest
        some (k :: more, true, rest)
      | none =>
        let rest ← expect close rest
        some ([k], false, rest)

/-- A set or a dictionary after its opening brace. Sets hold keys only. -/
def braces? : Nat → Reader Kind
  | 0, _ => none
  | fuel + 1, cs =>
    match expect '\x7d' cs with
    | some rest => some (.container, rest)
    | none => do
      let (k, rest) ← value? fuel cs
      if k = .container then none
      else match expect ':' rest with
        | none =>
          let (more, rest) ← match expect ',' rest with
            | some rest => (items? fuel '\x7d' rest).map fun (more, _, rest) => (more, rest)
            | none => (expect '\x7d' rest).map fun rest => ([], rest)
          if more.contains .container then none else some (.container, rest)
        | some rest =>
          let (_, rest) ← value? fuel rest
          match expect ',' rest with
          | some rest => fields? fuel rest
          | none => (expect '\x7d' rest).map fun rest => (.container, rest)

/-- Further fields of a dictionary. -/
def fields? : Nat → Reader Kind
  | 0, _ => none
  | fuel + 1, cs =>
    match expect '\x7d' cs with
    | some rest => some (.container, rest)
    | none => do
      let (k, rest) ← value? fuel cs
      if k = .container then none
      else
        let rest ← expect ':' rest
        let (_, rest) ← value? fuel rest
        match expect ',' rest with
        | some rest => fields? fuel rest
        | none => (expect '\x7d' rest).map fun rest => (.container, rest)

end

/-- Values between commas up to the end of the text. -/
def isListed : Nat → List Char → Bool
  | 0, _ => false
  | fuel + 1, cs => match value? fuel cs with
    | none => false
    | some (_, rest) => match expect ',' rest with
      | none => (skip rest).isEmpty
      | some rest => (skip rest).isEmpty || isListed fuel rest

/-- A whole text is a literal, or a tuple of literals without parentheses. -/
def isLiteral (cs : List Char) : Bool := isListed (8 * (cs.length + 1)) cs

end Scaffold.Markup.Literal
