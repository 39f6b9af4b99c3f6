import Scaffold.Template.Value

/-!
# Memory

Lists, tuples and dictionaries are shared: whoever holds one holds the place it is kept at, and a
change at that place is seen by everyone. A `Handle` is what an expression gives; `keep` puts a
value into the memory, and `value` reads back what a handle stands for at that moment.
-/

namespace Scaffold.Template

inductive Handle where
  /-- A value without shared parts. -/
  | plain (x : Value)
  /-- The container kept at a place. -/
  | kept (place : Nat)
  /-- A part of the dictionary kept at a place. -/
  | view (part : Part) (place : Nat)
  /-- A method of a value. -/
  | method (owner : Handle) (name : String) (type : Kind)
  deriving Inhabited

inductive Cell where
  | list (items : List Handle)
  | tuple (items : List Handle)
  | dict (fields : List (String × Handle))
  deriving Inhabited

def Cell.type : Cell → Kind
  | list _ => .list
  | tuple _ => .tuple
  | dict _ => .dict

structure Memory where
  cells : Array Cell

namespace Memory

def empty : Memory := ⟨#[]⟩

def get? (m : Memory) (place : Nat) : Option Cell := m.cells[place]?

def add (m : Memory) (c : Cell) : Handle × Memory := (.kept m.cells.size, ⟨m.cells.push c⟩)

def set (m : Memory) (place : Nat) (c : Cell) : Memory := ⟨m.cells.setIfInBounds place c⟩

@[simp] theorem get?_add_self (m : Memory) (c : Cell) :
    (m.add c).2.get? m.cells.size = some c := by
  simp [add, get?]

theorem get?_set_self (m : Memory) (place : Nat) (c : Cell) (h : place < m.cells.size) :
    (m.set place c).get? place = some c := by
  simp [set, get?, h]

theorem get?_set_of_ne (m : Memory) (place other : Nat) (c : Cell) (h : place ≠ other) :
    (m.set place c).get? other = m.get? other := by
  simp [set, get?, h]

/-! ## Values in and out -/

mutual

def keep (m : Memory) : Value → Handle × Memory
  | .list items =>
    let (hs, m) := keepItems m items
    m.add (.list hs)
  | .tuple items =>
    let (hs, m) := keepItems m items
    m.add (.tuple hs)
  | .dict fields =>
    let (hs, m) := keepFields m fields
    m.add (.dict hs)
  | x => (.plain x, m)

def keepItems (m : Memory) : List Value → List Handle × Memory
  | [] => ([], m)
  | x :: xs =>
    let (h, m) := keep m x
    let (hs, m) := keepItems m xs
    (h :: hs, m)

def keepFields (m : Memory) : List (String × Value) → List (String × Handle) × Memory
  | [] => ([], m)
  | (key, x) :: fs =>
    let (h, m) := keep m x
    let (hs, m) := keepFields m fs
    ((key, h) :: hs, m)

end

def placeOf? : Handle → Option Nat
  | .kept place | .view _ place => some place
  | _ => none

/-- The value of a handle, in at most `fuel` steps down. The containers that it is in are `around`
it; one of them inside itself is only named. -/
def valueFrom (m : Memory) : Nat → List Nat → Handle → Value
  | _, _, .plain x => x
  | _, _, .method owner name type => .method ⟨name, type, placeOf? owner⟩
  | 0, _, _ => .null
  | fuel + 1, around, .kept place => match m.get? place with
    | none => .null
    | some c =>
      if around.contains place then .again c.type
      else
        let inside (h : Handle) : Value := valueFrom m fuel (place :: around) h
        match c with
        | .list items => .list (items.map inside)
        | .tuple items => .tuple (items.map inside)
        | .dict fields => .dict (fields.map fun (key, h) => (key, inside h))
  | fuel + 1, around, .view part place => match m.get? place with
    | some (.dict fields) =>
      .view part (fields.map fun (key, h) => (key, valueFrom m fuel (place :: around) h))
    | _ => .null

/-- What a handle stands for. No way down passes a place twice, so the size of the memory bounds
it. -/
def value (m : Memory) (h : Handle) : Value := valueFrom m (m.cells.size + 2) [] h

@[simp] theorem value_plain (m : Memory) (x : Value) : m.value (.plain x) = x := by
  simp [value, valueFrom]

def type (m : Memory) : Handle → Kind
  | .plain x => x.type
  | .kept place => ((m.get? place).map Cell.type).getD .null
  | .view part _ => .view part
  | .method _ _ type => type

def truthy (m : Memory) : Handle → Bool
  | .plain x => x.truthy
  | .kept place => match m.get? place with
    | some (.list items) | some (.tuple items) => !items.isEmpty
    | some (.dict fields) => !fields.isEmpty
    | none => false
  | .view _ place => match m.get? place with
    | some (.dict fields) => !fields.isEmpty
    | _ => false
  | .method .. => true

end Memory

end Scaffold.Template
