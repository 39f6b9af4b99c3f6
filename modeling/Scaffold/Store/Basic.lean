/-!
# The store

What is on disk: files with their bytes, directories and symbolic links, each at its place in the
tree. The root is always a directory. The view of a store is `at?`; `insert` and `erase` change it
at one place.
-/

namespace Scaffold

/-- A place in the tree: the names from the entry outwards to the root. -/
abbrev Loc := List String

inductive Entry where
  | file (content : ByteArray)
  | directory
  | link (target : String)

namespace Entry

def isDirectory : Entry → Bool
  | directory => true
  | _ => false

def isFile : Entry → Bool
  | file _ => true
  | _ => false

def isLink : Entry → Bool
  | link _ => true
  | _ => false

end Entry

structure Store where
  entries : List (Loc × Entry)

namespace Store

def empty : Store := ⟨[]⟩

def at? (s : Store) (loc : Loc) : Option Entry :=
  if loc = [] then some .directory else s.entries.lookup loc

def isDirectoryAt (s : Store) (loc : Loc) : Bool := (s.at? loc).any Entry.isDirectory

def erase (s : Store) (loc : Loc) : Store := ⟨s.entries.filter fun e => e.1 ≠ loc⟩

def insert (s : Store) (loc : Loc) (e : Entry) : Store :=
  ⟨(loc, e) :: s.entries.filter fun e => e.1 ≠ loc⟩

/-- No entry lies directly in a directory. -/
def isBare (s : Store) (loc : Loc) : Bool :=
  s.entries.all fun e => e.1 = [] ∨ e.1.tail ≠ loc

/-- The way from a place down to one below it. -/
def wayDown? (above : Loc) : Loc → Option (List String)
  | [] => none
  | name :: outer =>
    if outer = above then some [name] else (wayDown? above outer).map (· ++ [name])

/-- The entries below a place with their paths from there, ordered by path. -/
def tree (s : Store) (above : Loc) : List (String × Entry) :=
  let found := s.entries.filterMap fun (loc, e) =>
    (wayDown? above loc).map fun names => ("/".intercalate names, e)
  found.mergeSort fun a b => a.1 ≤ b.1

variable {s : Store} {loc other : Loc} {e : Entry}

theorem at?_root : s.at? [] = some .directory := by simp [at?]

theorem lookup_filter_ne {l : List (Loc × Entry)} (h : other ≠ loc) :
    (l.filter fun e => e.1 ≠ loc).lookup other = l.lookup other := by
  induction l with
  | nil => rfl
  | cons a l ih =>
    obtain ⟨k, v⟩ := a
    by_cases hk : k = loc
    · subst hk
      have hb : (other == k) = false := by simpa using h
      simp only [List.lookup_cons, hb]
      simpa using ih
    · simp only [ne_eq, hk, not_false_eq_true, decide_true, List.filter_cons_of_pos,
        List.lookup_cons]
      rw [← ih]

theorem at?_insert_self (h : loc ≠ []) : (s.insert loc e).at? loc = some e := by
  simp [at?, insert, h]

theorem at?_insert_of_ne (h : other ≠ loc) : (s.insert loc e).at? other = s.at? other := by
  unfold at? insert
  split
  · rfl
  · have hb : (other == loc) = false := by simpa using h
    simp only [List.lookup_cons, hb]
    exact lookup_filter_ne h

theorem insert_insert (s : Store) (loc : Loc) (e e' : Entry) :
    (s.insert loc e).insert loc e' = s.insert loc e' := by
  simp [insert, List.filter_filter]

theorem at?_erase_of_ne (h : other ≠ loc) : (s.erase loc).at? other = s.at? other := by
  unfold at? erase
  split
  · rfl
  · exact lookup_filter_ne h

theorem at?_erase_self (h : loc ≠ []) : (s.erase loc).at? loc = none := by
  simp only [at?, erase, h, if_false, List.lookup_eq_none_iff]
  intro p hp
  have := (List.mem_filter.1 hp).2
  simp only [ne_eq, decide_not, Bool.not_eq_eq_eq_not, Bool.not_true,
    decide_eq_false_iff_not] at this
  simpa using fun h => this h.symm

end Store

end Scaffold
