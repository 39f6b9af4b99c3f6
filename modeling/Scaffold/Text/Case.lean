import Scaffold.Text.CaseTable
import Scaffold.Text.Blank

/-!
# Letter case and word shapes

Full case mapping: one character may become several, and a capital sigma at the end of a word
becomes a final sigma. On top of it stand the word shapes: `capitalize`, `pascal` and `camel`,
where words are what lies between hyphens, low lines and blanks.
-/

namespace Scaffold.Text

/-- The offset that the runs give to a code point. -/
def caseOffset (n : Nat) : List CaseRun → Int
  | [] => 0
  | r :: rest =>
    if n < r.first then 0
    else if n ≤ r.last ∧ (n - r.first) % r.step = 0 then r.offset
    else caseOffset n rest

/-- The expansion of a character if it has one, and else its place in the runs. -/
def mapCase (expansions : List (Nat × List Nat)) (runs : List CaseRun) (c : Char) : List Char :=
  match expansions.lookup c.toNat with
  | some codes => codes.map Char.ofNat
  | none => [Char.ofNat ((c.toNat : Int) + caseOffset c.toNat runs).toNat]

def upperChar (c : Char) : List Char := mapCase upperExpansions upperRuns c

/-- Lower case of a character that is no capital sigma. -/
def lowerChar (c : Char) : List Char := mapCase lowerExpansions lowerRuns c

def isCaseIgnorable (c : Char) : Bool := caseIgnorableRanges.contains c.toNat

def isCased (c : Char) : Bool := casedRanges.contains c.toNat

/-- A cased character comes next, characters without case position looked through. -/
def casedAhead : List Char → Bool
  | [] => false
  | c :: cs => if isCaseIgnorable c then casedAhead cs else isCased c

/-- Lower case of what follows; `behind` says whether a cased character comes just before. -/
def lowerFrom (behind : Bool) : List Char → List Char
  | [] => []
  | c :: cs =>
    let lowered :=
      if c = 'Σ' then (if behind && !casedAhead cs then ['ς'] else ['σ']) else lowerChar c
    lowered ++ lowerFrom (if isCaseIgnorable c then behind else isCased c) cs

/-- Lower case, with a final sigma where a capital sigma ends a word. -/
def lower (cs : List Char) : List Char := lowerFrom false cs

/-! ## Word shapes -/

/-- The first character in upper case and the rest as it is. -/
def capitalize : List Char → List Char
  | [] => []
  | c :: cs => upperChar c ++ cs

def isWordSeparator (c : Char) : Bool := c = '-' || c = '_' || isBlank c

def titleWord : List Char → List Char
  | [] => []
  | c :: cs => upperChar c ++ lower cs

/-- Every word in title case, the separators dropped. -/
def pascal (cs : List Char) : List Char := (cs.splitOnP isWordSeparator).flatMap titleWord

/-- Like `pascal`, with the first character in lower case. -/
def camel (cs : List Char) : List Char :=
  match pascal cs with
  | [] => []
  | c :: rest => lower [c] ++ rest

end Scaffold.Text
