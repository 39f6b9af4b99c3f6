/-!
# Replacing text

`replace` puts one text in the place of another, from left to right and without overlap. The empty
text stands before every character and at the end.
-/

namespace Scaffold.Text

def oneLess : Option Nat → Option Nat := Option.map (· - 1)

/-- Replaces a text that is not empty; the first `skip` characters belong to a replaced one. -/
def replaceWord (old new : List Char) : Nat → Option Nat → List Char → List Char
  | _, _, [] => []
  | skip + 1, limit, _ :: cs => replaceWord old new skip limit cs
  | 0, limit, c :: cs =>
    if limit ≠ some 0 ∧ old.isPrefixOf (c :: cs) then
      new ++ replaceWord old new (old.length - 1) (oneLess limit) cs
    else c :: replaceWord old new 0 limit cs

/-- Puts a text before every character and at the end. -/
def interleave (new : List Char) : Option Nat → List Char → List Char
  | limit, [] => if limit = some 0 then [] else new
  | limit, c :: cs =>
    if limit = some 0 then c :: cs else new ++ c :: interleave new (oneLess limit) cs

/-- Replaces `old` by `new`, at most `limit` times if there is a limit. -/
def replace (old new : List Char) (limit : Option Nat) (cs : List Char) : List Char :=
  if old.isEmpty then interleave new limit cs else replaceWord old new 0 limit cs

/-- Replacing one character by another changes it wherever it stands. -/
theorem replace_char (old new : Char) (cs : List Char) :
    replace [old] [new] none cs = cs.map fun c => if c = old then new else c := by
  have hword : replaceWord [old] [new] 0 none cs = cs.map fun c => if c = old then new else c := by
    induction cs with
    | nil => rfl
    | cons c cs ih =>
      rw [replaceWord, List.map_cons]
      by_cases hc : c = old
      · simp only [hc, List.length_singleton, Nat.sub_self, oneLess, Option.map_none, ih]
        simp
      · have hprefix : ¬ [old].isPrefixOf (c :: cs) = true := by
          simpa using fun he => hc he.symm
        rw [if_neg (fun h => hprefix h.2), if_neg hc, ih]
  exact hword

end Scaffold.Text
