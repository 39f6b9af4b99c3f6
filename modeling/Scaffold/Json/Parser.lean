import Scaffold.Json.Token

/-!
# Reading JSON

A reader with an explicit stack: `Reading.next?` takes one token, `ofTokens?` all of them, and
`Json.parse?` a text. No comma may end a list and nothing may follow the value. All fields of an
object are kept, repeated ones too.
-/

namespace Scaffold.Json

/-- A container that is still open, with what it holds so far, last first. -/
inductive Frame where
  | array (items : List Json)
  | object (fields : List (String × Json)) (key : String)

inductive Expected where
  | value
  /-- A value, or the end of the array just opened. -/
  | firstItem
  /-- A key, or the end of the object just opened. -/
  | firstKey (fields : List (String × Json))
  /-- A key after a comma. -/
  | key (fields : List (String × Json))
  /-- The colon after a key. -/
  | colon (fields : List (String × Json)) (key : String)
  /-- A comma or the end of the innermost container, after this value. -/
  | after (x : Json)

/-- A reading under way: the open containers, innermost first, and what may come next. -/
structure Reading where
  stack : List Frame
  expected : Expected

namespace Reading

def start : Reading := ⟨[], .value⟩

/-- Opens a container or takes a plain value. -/
def value? (stack : List Frame) : Token → Option Reading
  | .plain x _ => some ⟨stack, .after x⟩
  | .openArray => some ⟨.array [] :: stack, .firstItem⟩
  | .openObject => some ⟨stack, .firstKey []⟩
  | _ => none

/-- A separator or the end of the innermost container, after the value `x`. -/
def after? (x : Json) : List Frame → Token → Option Reading
  | .array items :: stack, .comma => some ⟨.array (x :: items) :: stack, .value⟩
  | .array items :: stack, .closeArray => some ⟨stack, .after (arr (x :: items).reverse)⟩
  | .object fields key :: stack, .comma => some ⟨stack, .key ((key, x) :: fields)⟩
  | .object fields key :: stack, .closeObject =>
    some ⟨stack, .after (obj ((key, x) :: fields).reverse)⟩
  | _, _ => none

def next? (r : Reading) (t : Token) : Option Reading :=
  match r.expected, t with
  | .firstItem, .closeArray => some ⟨r.stack.tail, .after (arr [])⟩
  | .firstItem, t => value? r.stack t
  | .value, t => value? r.stack t
  | .firstKey fields, .closeObject => some ⟨r.stack, .after (obj fields.reverse)⟩
  | .firstKey fields, .plain (str key) _ => some ⟨r.stack, .colon fields key⟩
  | .key fields, .plain (str key) _ => some ⟨r.stack, .colon fields key⟩
  | .colon fields key, .colon => some ⟨.object fields key :: r.stack, .value⟩
  | .after x, t => after? x r.stack t
  | _, _ => none

def result? : Reading → Option Json
  | ⟨[], .after x⟩ => some x
  | _ => none

end Reading

def ofTokens? (tokens : List Token) : Option Json :=
  (tokens.foldlM Reading.next? Reading.start).bind Reading.result?

/-- The value that a text writes. -/
def parse? (cs : List Char) : Option Json := (Token.scan cs).bind ofTokens?

mutual

/-- How many containers stand inside each other; an empty one holds nothing and does not count. -/
def depth : Json → Nat
  | arr (x :: xs) => max (depth x) (itemsDepth xs) + 1
  | obj ((_, x) :: fs) => max (depth x) (fieldsDepth fs) + 1
  | _ => 0

def itemsDepth : List Json → Nat
  | [] => 0
  | x :: xs => max (depth x) (itemsDepth xs)

def fieldsDepth : List (String × Json) → Nat
  | [] => 0
  | (_, x) :: fs => max (depth x) (fieldsDepth fs)

end

/-- How far a text may go before it is not read at all. -/
structure Limits where
  /-- The deepest nesting of containers. -/
  depth : Nat
  /-- The most characters that a number may have before its fraction and exponent. -/
  whole : Nat

def Limits.admits (l : Limits) : Token → Bool
  | .plain _ whole => whole ≤ l.whole
  | _ => true

def parseWithin? (l : Limits) (cs : List Char) : Option Json := do
  let tokens ← Token.scan cs
  if tokens.all l.admits then (ofTokens? tokens).filter fun x => x.depth ≤ l.depth else none

end Scaffold.Json
