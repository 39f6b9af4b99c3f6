
/-!
# Line ends

A carriage return, alone or before a line feed, ends a line like a line feed.
-/

namespace Scaffold.Text

/-- Writes every line end as one line feed. -/
def unifyLineEnds : List Char → List Char
  | [] => []
  | '\r' :: '\n' :: cs => '\n' :: unifyLineEnds cs
  | '\r' :: cs => '\n' :: unifyLineEnds cs
  | c :: cs => c :: unifyLineEnds cs

/-- Lines that end in line feeds stay as they are. -/
theorem unifyLineEnds_of_notMem {cs : List Char} (h : '\r' ∉ cs) : unifyLineEnds cs = cs := by
  induction cs with
  | nil => rfl
  | cons c cs ih =>
    obtain ⟨hc, hcs⟩ := not_or.mp (mt List.mem_cons.mpr h)
    have hne : c = '\r' → False := fun hr => hc hr.symm
    rw [unifyLineEnds.eq_4 c cs (fun _ hr _ => hne hr) hne, ih hcs]

end Scaffold.Text
