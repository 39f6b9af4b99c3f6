import Scaffold.Text.CompatibilityTable
import Scaffold.Text.CompositionTable

/-!
# Names in one form

`compose` writes a name in the form in which names are compared: characters that are forms of others
give way to them, marks stand in the order of their classes, and what can be put together is. It is
the compatibility composition of Unicode for the characters that may stand in names.
-/

namespace Scaffold.Text.Compose

/-! ## Hangul

A syllable is a leading consonant, a vowel and perhaps a trailing consonant, by arithmetic. -/

def syllables : Nat := 0xac00
def leads : Nat := 0x1100
def vowels : Nat := 0x1161
/-- One before the first trailing consonant, so that none has number zero. -/
def trails : Nat := 0x11a7

def syllableParts? (c : Nat) : Option (List Nat) :=
  if syllables ≤ c ∧ c < syllables + 11172 then
    let n := c - syllables
    let open_ := [leads + n / 588, vowels + n % 588 / 28]
    some (if n % 28 = 0 then open_ else open_ ++ [trails + n % 28])
  else none

/-- A lead with a vowel, or an open syllable with a trail. -/
def syllable? (a b : Nat) : Option Nat :=
  if leads ≤ a ∧ a < leads + 19 ∧ vowels ≤ b ∧ b < vowels + 21 then
    some (syllables + ((a - leads) * 21 + (b - vowels)) * 28)
  else if syllables ≤ a ∧ a < syllables + 11172 ∧ (a - syllables) % 28 = 0
      ∧ trails < b ∧ b < trails + 28 then
    some (a + (b - trails))
  else none

/-! ## Taking apart -/

def formOf? (c : Nat) : Option Nat :=
  let run := formRuns.find? fun (first, _, length) => first ≤ c && c < first + length
  let row := ideographForms.find? fun (first, targets) => first ≤ c && c < first + targets.length
  match run, row with
  | some (first, target, _), _ => some (target + (c - first))
  | none, some (first, targets) => targets[c - first]?
  | none, none => none

def pairOf? (c : Nat) : Option (Nat × Nat) :=
  (compositions.find? fun (_, _, whole) => whole = c).map fun (a, b, _) => (a, b)

/-- The characters that a character comes apart into; no pair has more than `fuel` pairs inside. -/
def parts : Nat → Nat → List Nat
  | 0, c => [c]
  | fuel + 1, c =>
    match syllableParts? c, formOf? c, spelledOut.lookup c, pairOf? c with
    | some cs, _, _, _ => cs
    | none, some d, _, _ => [d]
    | none, none, some cs, _ => cs
    | none, none, none, some (a, b) => parts fuel a ++ [b]
    | none, none, none, none => [c]

/-- Pairs stand inside each other at most this deep. -/
def deepest : Nat := 4

/-! ## Order of marks -/

/-- The class of a mark; zero for everything else. -/
def markClass (c : Nat) : Nat :=
  match markClasses.find? fun (lo, hi, _) => lo ≤ c && c ≤ hi with
  | some (_, _, k) => k
  | none => 0

/-- Puts a character in front, behind the marks that must stand before it. -/
def insert (c : Nat) : List Nat → List Nat
  | [] => [c]
  | d :: ds =>
    if markClass d ≠ 0 ∧ markClass d < markClass c then d :: insert c ds else c :: d :: ds

/-- Orders the marks after each character by their classes. -/
def order (cs : List Nat) : List Nat := cs.foldr insert []

/-! ## Putting together -/

def whole? (a b : Nat) : Option Nat :=
  (syllable? a b).or ((compositions.find? fun (c, d, _) => c = a && d = b).map (·.2.2))

/-- Composition under way: the character that takes marks in, and the marks since then that it did
not take, last first. -/
structure Pending where
  base : Nat
  marks : List Nat

/-- A mark reaches the base over the marks between if they are of lower classes. -/
def Pending.isReached (p : Pending) (c : Nat) : Bool :=
  match p.marks with
  | [] => true
  | last :: _ => markClass last < markClass c

def Pending.toList (p : Pending) : List Nat := p.base :: p.marks.reverse

/-- Puts together what can be, from a base on. -/
def join (p : Pending) : List Nat → List Nat
  | [] => p.toList
  | c :: cs =>
    match if p.isReached c then whole? p.base c else none with
    | some w => join ⟨w, p.marks⟩ cs
    | none =>
      if markClass c = 0 then p.toList ++ join ⟨c, []⟩ cs else join ⟨p.base, c :: p.marks⟩ cs

def joinAll : List Nat → List Nat
  | [] => []
  | c :: cs => join ⟨c, []⟩ cs

end Compose

/-- A name in the form in which names are compared. -/
def compose (s : String) : String :=
  let cs := s.toList
  if cs.all fun c => c.toNat < 0x80 then s
  else
    let apart := cs.flatMap fun c => Compose.parts Compose.deepest c.toNat
    String.ofList ((Compose.joinAll (Compose.order apart)).map Char.ofNat)

theorem compose_ascii (s : String) (h : s.toList.all (fun c => c.toNat < 0x80) = true) :
    compose s = s := by
  simp [compose, h]

end Scaffold.Text
