import Scaffold.Template.Member

/-!
# Arguments

What calls are given and what they give, and how values are taken as arguments: as places, as keys,
and as what can be gone through one by one.
-/

namespace Scaffold.Template

structure Arguments where
  values : List Handle
  options : List (String × Handle)

/-- What a call gives, and the memory after it. -/
abbrev CallResult := Except Trouble (Handle × Memory)

/-- A list of fields with one more; a field that is there keeps its place. -/
def putField {α : Type} (key : String) (x : α) : List (String × α) → List (String × α)
  | [] => [(key, x)]
  | (k, y) :: rest => if k = key then (k, x) :: rest else (k, y) :: putField key x rest

/-- A value can be a key: nothing in it can be changed. -/
def Value.isKey : Value → Bool
  | .list _ | .dict _ | .view .keys _ | .view .items _ => false
  | .tuple items => allKeys items
  | _ => true
where
  /-- All of them can. -/
  allKeys : List Value → Bool
    | [] => true
    | x :: xs => isKey x && allKeys xs

namespace Memory

/-- The numbers that count places lie below this power of two, the sixty-third. -/
def placeLimit : Int := 9223372036854775808

/-- An argument that is a place. -/
def placeArgument (m : Memory) (h : Handle) : Except Trouble Int :=
  match (m.value h).index? with
  | none => .error .typeMismatch
  | some i => if -placeLimit ≤ i && i < placeLimit then .ok i else .error .outOfRange

/-- An argument that is a key to look up; a key that is no text is in no dictionary. -/
def keyArgument (m : Memory) (h : Handle) : Except Trouble (Option String) :=
  match m.value h with
  | .str s => .ok (some s)
  | x => if x.isKey then .ok none else .error .typeMismatch

/-- An argument that is a key to store under. Other keys than texts are not stored here. -/
def newKey (m : Memory) (h : Handle) : Except Trouble String := do
  match ← m.keyArgument h with
  | some s => .ok s
  | none => .error .beyond

def noSuchKey (m : Memory) (h : Handle) : Trouble := .noKey (m.value h).shown

def text (s : String) : Handle := .plain (.str s)

def number (n : Nat) : Handle := .plain (.int n)

def nothing : Handle := .plain .null

/-- Pairs of keys and values, as tuples. -/
def addPairs (m : Memory) : List (String × Handle) → List Handle × Memory
  | [] => ([], m)
  | (key, x) :: rest =>
    let (pair, m) := m.add (.tuple [text key, x])
    let (pairs, m) := m.addPairs rest
    (pair :: pairs, m)

/-- The values that something consists of, one after the other. -/
def elements (m : Memory) (h : Handle) : Except Trouble (List Handle × Memory) :=
  match h with
  | .plain (.str s) => .ok (s.toList.map fun c => text (String.ofList [c]), m)
  | .plain (.rough c) => .ok (c.points.map fun p => .plain (.ofContent ⟨[p]⟩), m)
  | .plain (.absent _) => .ok ([], m)
  | .kept place => match m.get? place with
    | some (.list items) | some (.tuple items) => .ok (items, m)
    | some (.dict fields) => .ok (fields.map fun f => text f.1, m)
    | none => .error .typeMismatch
  | .view part place => match m.get? place, part with
    | some (.dict fields), .keys => .ok (fields.map fun f => text f.1, m)
    | some (.dict fields), .values => .ok (fields.map (·.2), m)
    | some (.dict fields), .items => .ok (m.addPairs fields)
    | _, _ => .error .typeMismatch
  | _ => .error .typeMismatch

def same (m : Memory) (a b : Handle) : Bool := (m.value a).same (m.value b)

def find? (m : Memory) (items : List Handle) (x : Handle) : Option Nat :=
  items.findIdx? fun y => m.same y x

end Memory

end Scaffold.Template
