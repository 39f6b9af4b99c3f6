import Scaffold.Markup.ColorTable
import Scaffold.Text.Blank
import Scaffold.Text.Case

/-!
# Styles

A style is a line of words: attributes, which may be taken back with `not`, a color, a background
after `on`, and an address after `link`. `Style.normal` writes styles of the same effect in the same
way, so that a tag can be closed under any of their spellings. Words that make no style stand for
themselves.
-/

namespace Scaffold.Markup

open Text

/-- What is wrong with marked up text. -/
inductive Blemish where
  /-- A tag closes nothing, or its parameters cannot be read. -/
  | tag
  /-- A part of a color is no number. -/
  | number
  deriving DecidableEq, Repr

structure Style where
  /-- The attributes that are turned on or off. -/
  marks : List (String × Bool)
  color : Option String
  background : Option String
  link : Option String
  deriving DecidableEq, Repr

namespace Style

def none : Style := ⟨[], .none, .none, .none⟩

def attributes : List String :=
  ["bold", "dim", "italic", "underline", "blink", "blink2", "reverse", "conceal", "strike",
    "underline2", "frame", "encircle", "overline"]

def shortNames : List (String × String) :=
  [("b", "bold"), ("d", "dim"), ("i", "italic"), ("u", "underline"), ("r", "reverse"),
    ("c", "conceal"), ("s", "strike"), ("uu", "underline2"), ("o", "overline")]

def attribute? (word : String) : Option String :=
  (shortNames.lookup word).or (if attributes.contains word then some word else .none)

def isHexDigit (c : Char) : Bool := c.isDigit || ('a' ≤ c && c ≤ 'f')

/-- A number of at most three digits, none above 255. -/
def isByte (cs : List Char) : Bool :=
  !cs.isEmpty && cs.length ≤ 3 && cs.all Char.isDigit && Nat.ofDigitChars 10 cs 0 ≤ 255

/-- Three numbers between commas. A missing number is a fault of its own. -/
def isTriple (cs : List Char) : Except Blemish Bool :=
  match cs.splitOn ',' with
  | [r, g, b] =>
    if [r, g, b].any List.isEmpty then .error .number
    else .ok ([r, g, b].all fun ds => Nat.ofDigitChars 10 ds 0 ≤ 255)
  | _ => .ok false

/-- The text between an opening and a closing parenthesis after a word. -/
def arguments? (word : String) (cs : List Char) : Option (List Char) := do
  let rest ← (word.toList ++ ['(']).isPrefixOf? cs
  match rest.reverse with
  | ')' :: inner => some inner.reverse
  | _ => .none

/-- A lower-case word names a color: by name, in hexadecimal, by number or by its three parts. -/
def isColor (word : String) : Except Blemish Bool :=
  if word = "default" || colorNames.contains word then .ok true
  else match word.toList with
    | '#' :: ds => .ok (ds.length == 6 && ds.all isHexDigit)
    | cs => match arguments? "color" cs, arguments? "rgb" cs with
      | some ds, _ => .ok (isByte ds)
      | .none, some parts =>
        if !parts.isEmpty && parts.all fun c => c.isDigit || c = ',' then isTriple parts
        else .ok false
      | .none, .none => .ok false

def lowerWord (word : List Char) : String := String.ofList (lower word)

def mark (s : Style) (name : String) (on : Bool) : Style :=
  { s with marks := (name, on) :: s.marks }

/-- Reads words on top of a style; some words make none. -/
def ofWords (s : Style) : List (List Char) → Except Blemish (Option Style)
  | [] => .ok (some s)
  | original :: rest =>
    let word := lowerWord original
    if word = "on" then
      match rest with
      | [] => .ok .none
      | color :: rest => do
        let color := lowerWord color
        if ← isColor color then ofWords { s with background := some color } rest else .ok .none
    else if word = "not" then
      match rest with
      | [] => .ok .none
      | negated :: rest => match attribute? (String.ofList negated) with
        | some a => ofWords (s.mark a false) rest
        | .none => .ok .none
    else if word = "link" then
      match rest with
      | [] => .ok .none
      | target :: rest => ofWords { s with link := some (String.ofList target) } rest
    else match attribute? word with
      | some a => ofWords (s.mark a true) rest
      | .none => do
        if ← isColor word then ofWords { s with color := some word } rest else .ok .none

def words (cs : List Char) : List (List Char) := (cs.splitOnP isBlank).filter (!·.isEmpty)

/-- A style in words, in a fixed order. -/
def text (s : Style) : String :=
  let marks := attributes.filterMap fun a =>
    (s.marks.lookup a).map fun on => if on then a else "not " ++ a
  let background := s.background.toList.flatMap fun c => ["on", c]
  let link := s.link.toList.flatMap fun target => ["link", target]
  match marks ++ s.color.toList ++ background ++ link with
  | [] => "none"
  | parts => " ".intercalate parts

/-- The one spelling of a style. -/
def normal (cs : List Char) : Except Blemish String := do
  if trim cs = "none".toList then .ok "none"
  else match ← ofWords none (words cs) with
    | some s => .ok s.text
    | .none => .ok (lowerWord (trim cs))

end Style

end Scaffold.Markup
