import Scaffold.Proofs.Template.Supply

/-!
# Known trees

Of two tame expressions or nodes it can be found out that they are the same, with a proof of it
(`Expr.same?`, `Node.same?`). So the tree that a bundled template compiles to can be written down
and checked (`compile_of_spells`).
-/

namespace Scaffold.Template

/-- A proof that two things are the same, if it was found. -/
abbrev Same {α : Type} (a b : α) := Option (PLift (a = b))

/-- The comparison of things that can always be compared. -/
def Same.ofDecidable {α : Type} [DecidableEq α] (a b : α) : Same a b :=
  if h : a = b then some ⟨h⟩ else none

/-- Words can be compared, and no other values. -/
def Value.same? : (x y : Value) → Same x y
  | .bool a, .bool b => do
    let ⟨h⟩ ← Same.ofDecidable a b
    return ⟨h ▸ rfl⟩
  | .str s, .str t => do
    let ⟨h⟩ ← Same.ofDecidable s t
    return ⟨h ▸ rfl⟩
  | _, _ => none

mutual

def Expr.same? : (a b : Expr) → Same a b
  | .constant x, .constant y => do
    let ⟨h⟩ ← x.same? y
    return ⟨h ▸ rfl⟩
  | .name s, .name t => do
    let ⟨h⟩ ← Same.ofDecidable s t
    return ⟨h ▸ rfl⟩
  | .filter a s as, .filter b t bs => do
    let ⟨h⟩ ← a.same? b
    let ⟨hs⟩ ← Same.ofDecidable s t
    let ⟨has⟩ ← argumentsSame? as bs
    return ⟨by rw [h, hs, has]⟩
  | .not a, .not b => do
    let ⟨h⟩ ← a.same? b
    return ⟨h ▸ rfl⟩
  | .and a a', .and b b' => do
    let ⟨h⟩ ← a.same? b
    let ⟨h'⟩ ← a'.same? b'
    return ⟨by rw [h, h']⟩
  | .or a a', .or b b' => do
    let ⟨h⟩ ← a.same? b
    let ⟨h'⟩ ← a'.same? b'
    return ⟨by rw [h, h']⟩
  | .compare a as, .compare b bs => do
    let ⟨h⟩ ← a.same? b
    let ⟨has⟩ ← restSame? as bs
    return ⟨by rw [h, has]⟩
  | .ifElse l a a' a?, .ifElse m b b' b? => do
    let ⟨hl⟩ ← Same.ofDecidable l m
    let ⟨h⟩ ← a.same? b
    let ⟨h'⟩ ← a'.same? b'
    let ⟨h?⟩ ← elseSame? a? b?
    return ⟨by rw [hl, h, h', h?]⟩
  | _, _ => none
termination_by structural a => a

def argumentsSame? : (as bs : List (Option String × Expr)) → Same as bs
  | [], [] => some ⟨rfl⟩
  | (k, a) :: as, (l, b) :: bs => do
    let ⟨hk⟩ ← Same.ofDecidable k l
    let ⟨h⟩ ← a.same? b
    let ⟨has⟩ ← argumentsSame? as bs
    return ⟨by rw [hk, h, has]⟩
  | _, _ => none
termination_by structural as => as

def restSame? : (as bs : List (Comparison × Expr)) → Same as bs
  | [], [] => some ⟨rfl⟩
  | (c, a) :: as, (d, b) :: bs => do
    let ⟨hc⟩ ← Same.ofDecidable c d
    let ⟨h⟩ ← a.same? b
    let ⟨has⟩ ← restSame? as bs
    return ⟨by rw [hc, h, has]⟩
  | _, _ => none
termination_by structural as => as

def elseSame? : (a? b? : Option Expr) → Same a? b?
  | none, none => some ⟨rfl⟩
  | some a, some b => do
    let ⟨h⟩ ← a.same? b
    return ⟨h ▸ rfl⟩
  | _, _ => none
termination_by structural a? => a?

end

mutual

def Node.same? : (n m : Node) → Same n m
  | .text s, .text t => do
    let ⟨h⟩ ← Same.ofDecidable s t
    return ⟨h ▸ rfl⟩
  | .output a, .output b => do
    let ⟨h⟩ ← a.same? b
    return ⟨h ▸ rfl⟩
  | .assign s a, .assign t b => do
    let ⟨hs⟩ ← Same.ofDecidable s t
    let ⟨h⟩ ← a.same? b
    return ⟨by rw [hs, h]⟩
  | .branch as ns, .branch bs ms => do
    let ⟨has⟩ ← armsSame? as bs
    let ⟨hns⟩ ← nodesSame? ns ms
    return ⟨by rw [has, hns]⟩
  | _, _ => none
termination_by structural n => n

def armsSame? : (as bs : List (Expr × List Node)) → Same as bs
  | [], [] => some ⟨rfl⟩
  | (a, ns) :: as, (b, ms) :: bs => do
    let ⟨h⟩ ← a.same? b
    let ⟨hns⟩ ← nodesSame? ns ms
    let ⟨has⟩ ← armsSame? as bs
    return ⟨by rw [h, hns, has]⟩
  | _, _ => none
termination_by structural as => as

def nodesSame? : (ns ms : List Node) → Same ns ms
  | [], [] => some ⟨rfl⟩
  | n :: ns, m :: ms => do
    let ⟨h⟩ ← n.same? m
    let ⟨hns⟩ ← nodesSame? ns ms
    return ⟨by rw [h, hns]⟩
  | _, _ => none
termination_by structural ns => ns

end

def Tree.same? (t u : Tree) : Same t u := do
  let ⟨hname⟩ ← Same.ofDecidable t.name u.name
  let ⟨hslots⟩ ← Same.ofDecidable t.slots u.slots
  let ⟨hnodes⟩ ← nodesSame? t.nodes u.nodes
  return ⟨by cases t; cases u; simp_all⟩

/-- Lines that are spelled out compile to a known tree. -/
theorem compile_of_spells {path : String} {lines : List String} {css : List (List Char)} {t : Tree}
    (h : Spells lines css)
    (hc : (Tree.ofSource path (Text.unifyLineEnds (css.flatMap (· ++ ['\n'])))).toOption.any
      fun u => (u.same? t).isSome) : Tree.ofSource path (sourceOf lines) = .ok t := by
  obtain ⟨u, hu, hsame⟩ := exists_ok_of_any hc
  have heq : u = t := ((u.same? t).get hsame).down
  rw [compile_sourceOf h, hu, heq]

end Scaffold.Template
