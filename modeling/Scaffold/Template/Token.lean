import Scaffold.Template.Literal
import Scaffold.Text.Blank
import Scaffold.Text.Identifier

/-!
# Tokens in tags

The inside of a tag is cut into names, literals and marks up to the end of the tag, which counts
only outside brackets. `scanTag` gives the tokens and where the text goes on. A tag that cannot be
read to its end has a flaw as its last token: what is wrong matters only to a reader that gets
there.
-/

namespace Scaffold.Template

open Number Text

inductive Mark where
  | same
  | differs
  | less
  | lessOrSame
  | greater
  | greaterOrSame
  | assign
  | dot
  | comma
  | colon
  | bar
  | minus
  | openParen
  | closeParen
  | openBracket
  | closeBracket
  deriving DecidableEq, Repr

inductive Token where
  | name (s : String)
  | text (content : Content)
  | int (n : Nat)
  | float (x : Binary64)
  | mark (m : Mark)
  /-- From here on the tag cannot be read. -/
  | flaw (why : Flaw)
  deriving DecidableEq, Repr

structure Placed where
  line : Nat
  token : Token
  deriving DecidableEq, Repr

def lineEnds (cs : List Char) : Nat := cs.count '\n'

structure After where
  rest : List Char
  line : Nat
  /-- The text goes on at the start of a line. -/
  atLineStart : Bool

/-- The end of a tag whose delimiter is `close` and a brace: the blanks that belong to it, and the
rest. A minus takes all blanks along. The end of a block or comment takes one line end along, unless
a plus stands before it. -/
def ending? (close : Char) : List Char → Option (List Char × List Char)
  | '-' :: c :: '\x7d' :: rest => if c = close then some (rest.span isBlank) else none
  | '+' :: c :: '\x7d' :: rest => if c = close ∧ close ≠ '\x7d' then some ([], rest) else none
  | c :: '\x7d' :: rest =>
    if c ≠ close then none
    else match rest with
      | '\n' :: rest' => if close ≠ '\x7d' then some (['\n'], rest') else some ([], rest)
      | rest => some ([], rest)
  | _ => none

/-- Goes on after blanks that belong to a tag. -/
def After.skipping (line : Nat) (blanks rest : List Char) : After :=
  ⟨rest, line + lineEnds blanks, blanks.getLast? = some '\n'⟩

/-- The mark at the front of a text, the longest one that fits. -/
def mark? : List Char → Option (Mark × List Char)
  | '=' :: '=' :: cs => some (.same, cs)
  | '!' :: '=' :: cs => some (.differs, cs)
  | '<' :: '=' :: cs => some (.lessOrSame, cs)
  | '>' :: '=' :: cs => some (.greaterOrSame, cs)
  | '<' :: cs => some (.less, cs)
  | '>' :: cs => some (.greater, cs)
  | '=' :: cs => some (.assign, cs)
  | '.' :: cs => some (.dot, cs)
  | ',' :: cs => some (.comma, cs)
  | ':' :: cs => some (.colon, cs)
  | '|' :: cs => some (.bar, cs)
  | '-' :: cs => some (.minus, cs)
  | '(' :: cs => some (.openParen, cs)
  | ')' :: cs => some (.closeParen, cs)
  | '[' :: cs => some (.openBracket, cs)
  | ']' :: cs => some (.closeBracket, cs)
  | _ => none

/-- A token read off the front of a text, how many line ends it has, and the rest. -/
structure Scanned where
  token : Token
  ends : Nat
  rest : List Char

/-- A number that may turn out not to be readable. -/
def Scanned.number {α : Type} (f : α → Token) (x : Except Flaw α) (rest : List Char) : Scanned :=
  ⟨match x with
    | .ok a => f a
    | .error why => .flaw why, 0, rest⟩

/-- The token at the front of a text. After a dot a number is whole. -/
def token? (afterDot : Bool) (cs : List Char) : Option Scanned :=
  match (if afterDot then none else float? cs), int? cs, cs with
  | some (x, rest), _, _ => some (.number .float x rest)
  | none, some (n, rest), _ => some (.number .int n rest)
  | none, none, c :: tail =>
    if isNameStart c then
      let (name, rest) := tail.span isNameContinue
      some ⟨.name (String.ofList (c :: name)), 0, rest⟩
    else if c = '"' ∨ c = '\'' then do
      let (body, rest) ← untilQuote c tail
      let value ← textValue? body
      some ⟨.text value, lineEnds body, rest⟩
    else (mark? cs).map fun (m, rest) => ⟨.mark m, 0, rest⟩
  | none, none, [] => none

/-- The brackets that wait to be closed after one more token, innermost first; a bracket that closes
none of them is an error. -/
def brackets? (waiting : List Mark) : Token → Option (List Mark)
  | .mark .openParen => some (.closeParen :: waiting)
  | .mark .openBracket => some (.closeBracket :: waiting)
  | .mark .closeParen => closed .closeParen
  | .mark .closeBracket => closed .closeBracket
  | _ => some waiting
where
  /-- Closes the innermost bracket. -/
  closed (m : Mark) : Option (List Mark) :=
    match waiting with
    | w :: rest => if w = m then some rest else none
    | [] => none

/-- The next token with the brackets that wait after it, or what is wrong. -/
def nextToken (waiting : List Mark) (afterDot : Bool) (cs : List Char) :
    Except Flaw (Scanned × List Mark) :=
  match token? afterDot cs with
  | none => .error .malformed
  | some found => match found.token, brackets? waiting found.token with
    | .flaw why, _ => .error why
    | _, some waiting => .ok (found, waiting)
    | _, none => .error .malformed

/-- Scans a tag with at most `fuel` steps. -/
def scanTagFrom (close : Char) :
    Nat → Nat → List Mark → Bool → List Char → List Placed × Option After
  | 0, line, _, _, _ => ([⟨line, .flaw .malformed⟩], none)
  | fuel + 1, line, waiting, afterDot, cs =>
    match (if waiting.isEmpty then ending? close cs else none), cs with
    | some (blanks, rest), _ => ([], some (.skipping line blanks rest))
    | none, [] => ([⟨line, .flaw .malformed⟩], none)
    | none, c :: tail =>
      if isBlank c then
        scanTagFrom close fuel (if c = '\n' then line + 1 else line) waiting false tail
      else match nextToken waiting afterDot cs with
        | .error why => ([⟨line, .flaw why⟩], none)
        | .ok (found, waiting) =>
          let afterDot := found.token = .mark .dot
          let (tokens, after) :=
            scanTagFrom close fuel (line + found.ends) waiting afterDot found.rest
          (⟨line, found.token⟩ :: tokens, after)

/-- The tokens of a tag that begins on a line, and where the text goes on after its end. -/
def scanTag (close : Char) (line : Nat) (cs : List Char) : List Placed × Option After :=
  scanTagFrom close (cs.length + 1) line [] false cs

end Scaffold.Template
