import Scaffold.Template.Expr
import Scaffold.Template.Token

/-!
# The grammar of expressions

How expressions are read from tokens. From loose to tight: the inline condition, `or`, `and`, `not`,
comparison, minus, and then what follows a value: members, items, calls and filters. The language
has more than that, arithmetic, membership, tests and dictionaries, which is not read. A reader
stops at the first token that does not fit; what is wrong is then the flaw at that token, if it is
one, and else that the source is malformed.
-/

namespace Scaffold.Template.Grammar

/-- Reads something off the front of the tokens. -/
abbrev Reader (α : Type) := List Placed → Except Flaw (α × List Placed)

def trouble : List Placed → Flaw
  | ⟨_, .flaw why⟩ :: _ => why
  | _ => .malformed

def lineOf : List Placed → Nat
  | [] => 0
  | t :: _ => t.line

/-- The rest after a mark, if it is there. -/
def mark? (m : Mark) : List Placed → Option (List Placed)
  | ⟨_, t⟩ :: rest => if t = .mark m then some rest else none
  | [] => none

def expect (m : Mark) (ts : List Placed) : Except Flaw (List Placed) :=
  match mark? m ts with
  | some rest => .ok rest
  | none => .error (trouble ts)

def expectEnd (ts : List Placed) : Except Flaw Unit :=
  if ts.isEmpty then .ok () else .error (trouble ts)

def word? (w : String) : List Placed → Option (List Placed)
  | ⟨_, t⟩ :: rest => if t = .name w then some rest else none
  | [] => none

/-- Words that stand for a value. -/
def constant? : String → Option Value
  | "true" | "True" => some (.bool true)
  | "false" | "False" => some (.bool false)
  | "none" | "None" => some .null
  | _ => none

def comparison? : Token → Option Comparison
  | .mark .same => some .same
  | .mark .differs => some .differs
  | .mark .less => some .less
  | .mark .lessOrSame => some .lessOrSame
  | .mark .greater => some .greater
  | .mark .greaterOrSame => some .greaterOrSame
  | _ => none

/-- Texts that stand side by side are one text. -/
def readTexts (before : Content) : List Placed → Content × List Placed
  | ⟨_, .text c⟩ :: rest => readTexts (before ++ c) rest
  | rest => (before, rest)

/-- The parts of a filter's name after its first one. -/
def readDotted (before : String) : Reader String
  | ⟨_, .mark .dot⟩ :: ⟨_, .name s⟩ :: rest => readDotted (before ++ "." ++ s) rest
  | ⟨_, .mark .dot⟩ :: rest => .error (trouble rest)
  | rest => .ok (before, rest)

/-! ## Room

A source is read, compiled and rendered on a call stack of a thousand frames. Each level of nesting
takes a frame for every reader on the way to the next level, so expressions inside each other take
room, and there is only so much of it. -/

/-- The frames that are left at the outside of a tag. -/
def fullRoom : Nat := 970

/-- The frames that one more pair of parentheses or brackets takes: those of the readers from a
whole expression down to a value. -/
def bracketRoom : Nat := 13

/-- The frames that one more call or item takes: one more, for what follows a value. -/
def callRoom : Nat := 14

/-- The room that is left after something takes its part. -/
def take (room part : Nat) : Except Flaw Nat :=
  if part ≤ room then .ok (room - part) else .error .tooDeep

/-! ## Expressions -/

mutual

def read : Nat → Nat → Reader Expr
  | 0, _, ts => .error (trouble ts)
  | fuel + 1, room, ts => do
    let (e, rest) ← readOr fuel room ts
    readConditions fuel room (lineOf ts) e rest

def readConditions : Nat → Nat → Nat → Expr → Reader Expr
  | 0, _, _, _, ts => .error (trouble ts)
  | fuel + 1, room, line, e, ts =>
    match word? "if" ts with
    | none => .ok (e, ts)
    | some ts => do
      let (test, ts) ← readOr fuel room ts
      match word? "else" ts with
      | some ts => do
        let (no, ts) ← read fuel (← take room 1) ts
        readConditions fuel room (lineOf ts) (.ifElse line test e (some no)) ts
      | none => readConditions fuel room (lineOf ts) (.ifElse line test e none) ts

/-- An expression without an inline condition of its own. -/
def readOr : Nat → Nat → Reader Expr
  | 0, _, ts => .error (trouble ts)
  | fuel + 1, room, ts => do
    let (a, ts) ← readAnd fuel room ts
    readMoreOr fuel room a ts

def readMoreOr : Nat → Nat → Expr → Reader Expr
  | 0, _, _, ts => .error (trouble ts)
  | fuel + 1, room, a, ts =>
    match word? "or" ts with
    | none => .ok (a, ts)
    | some ts => do
      let (b, ts) ← readAnd fuel room ts
      readMoreOr fuel room (.or a b) ts

def readAnd : Nat → Nat → Reader Expr
  | 0, _, ts => .error (trouble ts)
  | fuel + 1, room, ts => do
    let (a, ts) ← readNot fuel room ts
    readMoreAnd fuel room a ts

def readMoreAnd : Nat → Nat → Expr → Reader Expr
  | 0, _, _, ts => .error (trouble ts)
  | fuel + 1, room, a, ts =>
    match word? "and" ts with
    | none => .ok (a, ts)
    | some ts => do
      let (b, ts) ← readNot fuel room ts
      readMoreAnd fuel room (.and a b) ts

def readNot : Nat → Nat → Reader Expr
  | 0, _, ts => .error (trouble ts)
  | fuel + 1, room, ts =>
    match word? "not" ts with
    | some ts => do
      let (e, ts) ← readNot fuel (← take room 1) ts
      .ok (.not e, ts)
    | none => do
      let (e, ts) ← readMinus fuel room true ts
      let (rest, ts) ← readComparisons fuel room ts
      .ok (if rest.isEmpty then e else .compare e rest, ts)

/-- Comparisons after a value. After them a negation could only belong to a test of membership,
which shows in the token behind it. -/
def readComparisons : Nat → Nat → Reader (List (Comparison × Expr))
  | 0, _, ts => .error (trouble ts)
  | fuel + 1, room, ts =>
    match ts with
    | ⟨_, .name "not"⟩ :: ⟨_, .flaw why⟩ :: _ => .error why
    | ⟨_, t⟩ :: after => match comparison? t with
      | none => .ok ([], ts)
      | some c => do
        let (e, ts) ← readMinus fuel room true after
        let (rest, ts) ← readComparisons fuel room ts
        .ok ((c, e) :: rest, ts)
    | [] => .ok ([], ts)

/-- A value with what follows it; filters belong to it only where they bind. -/
def readMinus : Nat → Nat → Bool → Reader Expr
  | 0, _, _, ts => .error (trouble ts)
  | fuel + 1, room, withFilters, ts => do
    let (e, ts) ← match mark? .minus ts with
      | some ts => do
        let (e, ts) ← readMinus fuel (← take room 1) false ts
        .ok (Expr.minus e, ts)
      | none => readPrimary fuel room ts
    let (e, ts) ← readParts fuel room e ts
    if withFilters then readFilters fuel room e ts else .ok (e, ts)

def readPrimary : Nat → Nat → Reader Expr
  | 0, _, ts => .error (trouble ts)
  | fuel + 1, room, ts =>
    match ts with
    | ⟨_, .name s⟩ :: ts => match constant? s with
      | some x => .ok (.constant x, ts)
      | none => .ok (.name s, ts)
    | ⟨_, .text c⟩ :: ts =>
      let (c, ts) := readTexts c ts
      .ok (.constant (.ofContent c), ts)
    | ⟨_, .int n⟩ :: ts => .ok (.constant (.int n), ts)
    | ⟨_, .float x⟩ :: ts => .ok (.constant (.float x), ts)
    | ⟨_, .mark .openParen⟩ :: ts => do
      let (e, ts) ← readTuple fuel (← take room bracketRoom) true ts
      let ts ← expect .closeParen ts
      .ok (e, ts)
    | ⟨_, .mark .openBracket⟩ :: ts => do
      let (items, ts) ← readItems fuel (← take room bracketRoom) ts
      .ok (.list items, ts)
    | ts => .error (trouble ts)

/-- One expression, or a tuple of several; nothing at all is a tuple only between parentheses. -/
def readTuple : Nat → Nat → Bool → Reader Expr
  | 0, _, _, ts => .error (trouble ts)
  | fuel + 1, room, inParentheses, ts => do
    let (items, comma, ts) ← readListed fuel room true ts
    match items, comma with
    | [e], false => .ok (e, ts)
    | [], _ => if inParentheses then .ok (.tuple [], ts) else .error (trouble ts)
    | items, _ => .ok (.tuple items, ts)

/-- Expressions with commas between them, and whether there are commas. -/
def readListed : Nat → Nat → Bool → List Placed →
    Except Flaw (List Expr × Bool × List Placed)
  | 0, _, _, ts => .error (trouble ts)
  | fuel + 1, room, conditions, ts =>
    if ts.isEmpty || (mark? .closeParen ts).isSome then .ok ([], false, ts)
    else do
      let (e, ts) ← if conditions then read fuel room ts else readOr fuel room ts
      match mark? .comma ts with
      | none => .ok ([e], false, ts)
      | some ts => do
        let (more, _, ts) ← readListed fuel room conditions ts
        .ok (e :: more, true, ts)

/-- The items of a list up to its end; a comma may stand after the last one. -/
def readItems : Nat → Nat → Reader (List Expr)
  | 0, _, ts => .error (trouble ts)
  | fuel + 1, room, ts =>
    match mark? .closeBracket ts with
    | some ts => .ok ([], ts)
    | none => do
      let (e, ts) ← read fuel room ts
      match mark? .comma ts with
      | some ts => do
        let (rest, ts) ← readItems fuel room ts
        .ok (e :: rest, ts)
      | none => do
        let ts ← expect .closeBracket ts
        .ok ([e], ts)

/-- The keys between brackets after a value; no comma may stand after the last one. -/
def readKeys : Nat → Nat → Reader (List Expr)
  | 0, _, ts => .error (trouble ts)
  | fuel + 1, room, ts => do
    let (e, ts) ← read fuel room ts
    match mark? .comma ts with
    | some after => do
      let (rest, ts) ← readKeys fuel room after
      .ok (e :: rest, ts)
    | none => do
      let ts ← expect .closeBracket ts
      .ok ([e], ts)

/-- Members, items and calls after a value. -/
def readParts : Nat → Nat → Expr → Reader Expr
  | 0, _, _, ts => .error (trouble ts)
  | fuel + 1, room, e, ts =>
    match ts with
    | ⟨_, .mark .dot⟩ :: ⟨_, .name s⟩ :: ts => readParts fuel room (.member e s) ts
    | ⟨_, .mark .dot⟩ :: ⟨_, .int n⟩ :: ts => readParts fuel room (.item e (.constant (.int n))) ts
    | ⟨_, .mark .dot⟩ :: ts => .error (trouble ts)
    | ⟨_, .mark .openBracket⟩ :: ts =>
      match mark? .closeBracket ts with
      | some ts => readParts fuel room (.item e (.tuple [])) ts
      | none => do
        let (keys, ts) ← readKeys fuel (← take room callRoom) ts
        let key := match keys with
          | [key] => key
          | keys => .tuple keys
        readParts fuel room (.item e key) ts
    | ⟨_, .mark .openParen⟩ :: ts => do
      let (args, ts) ← readArguments fuel (← take room callRoom) false ts
      readParts fuel room (.call e args) ts
    | ts => .ok (e, ts)

def readFilters : Nat → Nat → Expr → Reader Expr
  | 0, _, _, ts => .error (trouble ts)
  | fuel + 1, room, e, ts =>
    match ts with
    | ⟨_, .mark .bar⟩ :: ⟨_, .name s⟩ :: ts => do
      let (full, ts) ← readDotted s ts
      match mark? .openParen ts with
      | some ts => do
        let (args, ts) ← readArguments fuel (← take room callRoom) false ts
        readFilters fuel room (.filter e full args) ts
      | none => readFilters fuel room (.filter e full []) ts
    | ⟨_, .mark .bar⟩ :: ts => .error (trouble ts)
    | ⟨_, .mark .openParen⟩ :: ts => do
      let (args, ts) ← readArguments fuel (← take room callRoom) false ts
      readFilters fuel room (.call e args) ts
    | ts => .ok (e, ts)

/-- The arguments of a call up to its end. After the first keyword all arguments need one; a comma
may stand after the last argument. -/
def readArguments : Nat → Nat → Bool → Reader (List (Option String × Expr))
  | 0, _, _, ts => .error (trouble ts)
  | fuel + 1, room, keywordsOnly, ts =>
    match mark? .closeParen ts with
    | some ts => .ok ([], ts)
    | none => do
      let (key, ts) ← match ts with
        | ⟨_, .name s⟩ :: ⟨_, .mark .assign⟩ :: ts => .ok (some s, ts)
        | ⟨_, .name _⟩ :: after =>
          if keywordsOnly then .error (trouble after) else .ok (none, ts)
        | ts => if keywordsOnly then .error (trouble ts) else .ok (none, ts)
      let (e, ts) ← read fuel room ts
      match mark? .comma ts with
      | some ts => do
        let (rest, ts) ← readArguments fuel room key.isSome ts
        .ok ((key, e) :: rest, ts)
      | none => do
        let ts ← expect .closeParen ts
        .ok ([(key, e)], ts)

end

/-- More steps than reading these tokens takes. -/
def fuelFor (ts : List Placed) : Nat := 20 * (ts.length + 1)

/-- Reads an expression or a tuple with the given room, up to the end of the tokens. -/
def expression (room : Nat) (ts : List Placed) : Except Flaw Expr := do
  let (e, rest) ← readTuple (fuelFor ts) room false ts
  expectEnd rest
  .ok e

/-- Reads the test of a condition: an expression or a tuple without an inline condition at its
outside, and a colon that may follow it. -/
def test (room : Nat) (ts : List Placed) : Except Flaw Expr := do
  let (items, comma, rest) ← readListed (fuelFor ts) room false ts
  expectEnd ((mark? .colon rest).getD rest)
  match items, comma with
  | [e], false => .ok e
  | [], _ => .error (trouble ts)
  | items, _ => .ok (.tuple items)

end Scaffold.Template.Grammar
