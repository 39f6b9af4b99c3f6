import Scaffold.Template.Token

/-!
# Pieces of a template

A template is text with three kinds of tags: `{{ … }}` prints a value, `{% … %}` is an instruction,
`{# … #}` a comment. `Piece.cut` takes a source apart. White space around tags is settled here: a
minus sign at the border of a tag drops all blanks on that side, an instruction or comment that
stands first on its line drops the blanks before it, and the line end after it goes too. A plus sign
keeps them.
-/

namespace Scaffold.Template

open Text

inductive Piece where
  | text (cs : List Char)
  | output (tokens : List Placed)
  | instruction (tokens : List Placed)
  /-- From here on the source cannot be taken apart. -/
  | broken
  deriving DecidableEq, Repr

/-- The sign right after the opening of a tag. -/
inductive Sign where
  | none
  | minus
  | plus
  deriving DecidableEq, Repr

namespace Piece

/-- The text up to the next opening of a tag, and the rest from there. -/
def untilOpening : List Char → List Char × List Char
  | [] => ([], [])
  | c :: cs =>
    if c = '\x7b' ∧ (cs.head? = some '\x7b' ∨ cs.head? = some '%' ∨ cs.head? = some '#') then
      ([], c :: cs)
    else
      let (before, rest) := untilOpening cs
      (c :: before, rest)

def sign : List Char → Sign × List Char
  | '-' :: cs => (.minus, cs)
  | '+' :: cs => (.plus, cs)
  | cs => (.none, cs)

/-- Drops the blanks after the last line end, if there is nothing else and a line begins there. -/
def dropIndent (atLineStart : Bool) (cs : List Char) : List Char :=
  let (lastLine, before) := cs.reverse.span (· ≠ '\n')
  if lastLine.all isBlank ∧ (atLineStart ∨ !before.isEmpty) then before.reverse else cs

/-- The text before a tag. Only instructions and comments drop indentation. -/
def trimBefore (sign : Sign) (atLineStart dropsIndent : Bool) (cs : List Char) : List Char :=
  match sign with
  | .minus => trimEnd cs
  | .plus => cs
  | .none => if dropsIndent then dropIndent atLineStart cs else cs

def ofText (cs : List Char) : List Piece := if cs.isEmpty then [] else [.text cs]

def word? (word : List Char) (cs : List Char) : Option (List Char) :=
  (word.isPrefixOf? (cs.dropWhile isBlank)).map (·.dropWhile isBlank)

/-- What follows the opening of raw text. Here a line end after the tag is kept. -/
def rawOpening? (cs : List Char) : Option (List Char × List Char) := do
  let rest ← word? ['r', 'a', 'w'] cs
  match rest with
  | '-' :: '%' :: '\x7d' :: rest => some (rest.span isBlank)
  | '%' :: '\x7d' :: rest => some ([], rest)
  | _ => none

/-- The closing of raw text at the front. -/
def rawClosing? (cs : List Char) : Option (Sign × List Char × List Char) := do
  let rest ← ['\x7b', '%'].isPrefixOf? cs
  let (s, rest) := sign rest
  let rest ← word? ['e', 'n', 'd', 'r', 'a', 'w'] rest
  let (blanks, rest) ← ending? '%' rest
  some (s, blanks, rest)

/-- Raw text up to its closing. -/
def untilRawClosing : List Char → Option (List Char × Sign × List Char × List Char)
  | [] => none
  | c :: cs => match rawClosing? (c :: cs) with
    | some (s, blanks, rest) => some ([], s, blanks, rest)
    | none => (untilRawClosing cs).map fun (raw, s, blanks, rest) => (c :: raw, s, blanks, rest)

def untilCommentEnd : List Char → Option (List Char × List Char × List Char)
  | [] => none
  | c :: cs => match ending? '#' (c :: cs) with
    | some (blanks, rest) => some ([], blanks, rest)
    | none => (untilCommentEnd cs).map fun (comment, blanks, rest) => (c :: comment, blanks, rest)

/-- Line ends between the front of a text and a later place in it. -/
def lineEndsUpTo (cs rest : List Char) : Nat := lineEnds cs - lineEnds rest

/-- What one tag gives, and where the text goes on after it. Nothing comes after a source that ends
in the opening of a comment or of raw text, or that cannot be read on. -/
def tag (kind : Char) (line : Nat) (cs : List Char) : List Piece × Option After :=
  if kind = '\x7b' then
    let (tokens, after) := scanTag '\x7d' line cs
    ([.output tokens], after)
  else if kind = '#' then
    match untilCommentEnd cs with
    | some (comment, blanks, rest) =>
      ([], some (.skipping (line + lineEnds comment) blanks rest))
    | none => (if cs.isEmpty then [] else [.broken], none)
  else match rawOpening? cs with
    | some (opening, raw) =>
      let line := line + lineEndsUpTo cs raw
      match untilRawClosing raw with
      | some (body, s, blanks, rest) =>
        let atLineStart := opening.getLast? = some '\n'
        let closing := line + lineEndsUpTo raw rest - lineEnds blanks
        (ofText (trimBefore s atLineStart true body), some (.skipping closing blanks rest))
      | none => (if raw.isEmpty then [] else [.broken], none)
    | none =>
      let (tokens, after) := scanTag '%' line cs
      ([.instruction tokens], after)

/-- Takes a source apart in at most `fuel` steps. -/
def cutFrom : Nat → Nat → Bool → List Char → List Piece
  | 0, _, _, _ => [.broken]
  | fuel + 1, line, atLineStart, cs =>
    match untilOpening cs with
    | (before, _ :: kind :: rest) =>
      let (s, rest) := sign rest
      let text := ofText (trimBefore s atLineStart (kind ≠ '\x7b') before)
      let (pieces, after) := tag kind (line + lineEnds before) rest
      match after with
      | none => text ++ pieces
      | some after =>
        text ++ pieces ++ cutFrom fuel after.line after.atLineStart after.rest
    | (before, _) => ofText before

def cut (cs : List Char) : List Piece := cutFrom (cs.length + 1) 1 true cs

end Piece

end Scaffold.Template
