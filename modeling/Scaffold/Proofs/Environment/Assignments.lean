import Scaffold.Environment

/-!
# What environment files assign

A reader of environment files takes them line by line, passes over empty lines and remarks, and cuts
every other line at its first equals sign (`Variable.assignments`). From the file of a list of
variables it gets the variables back, each once and in their order, with the values that the file
was made for (`assignments_fileText`).
-/

namespace Scaffold.Variable

/-- What a file of one kind gives for a variable. -/
def given (isExample : Bool) (v : Variable) : String := if isExample then v.example else v.value

/-- The line is neither empty nor a remark. -/
def isAssigning (line : List Char) : Bool := !line.isEmpty && line.head? ≠ some '#'

/-- What stands before the first equals sign of a line, and what stands behind it. -/
def assignment? (line : List Char) : Option (String × String) :=
  match line.dropWhile (· ≠ '=') with
  | [] => none
  | _ :: value => some (String.ofList (line.takeWhile (· ≠ '=')), String.ofList value)

/-- What the lines of a file assign; one without an equals sign assigns nothing. -/
def assignments (text : String) : List (Option (String × String)) :=
  ((text.toList.splitOn '\n').filter isAssigning).map assignment?

/-- A variable that can be told from its lines: each part of it stays on one line, and its key
neither begins like a remark nor holds an equals sign. -/
structure IsReadable (v : Variable) : Prop where
  key_equals : '=' ∉ v.key.toList
  key_line : '\n' ∉ v.key.toList
  key_remark : v.key.toList.head? ≠ some '#'
  value_line : '\n' ∉ v.value.toList
  example_line : '\n' ∉ v.example.toList
  comment_line : ∀ c, v.comment = some c → '\n' ∉ c.toList

variable {v : Variable} {vars : List Variable} {key value : List Char} {ls : List String}

/-! ## The lines of a variable -/

def assigningLine (isExample : Bool) (v : Variable) : List Char :=
  v.key.toList ++ '=' :: (v.given isExample).toList

/-- The first equals sign of a line is the one behind a key that has none. -/
theorem assignment?_cut (h : '=' ∉ key) :
    assignment? (key ++ '=' :: value) = some (String.ofList key, String.ofList value) := by
  have hkey : ∀ c ∈ key, decide (c ≠ '=') = true := by
    intro c hc
    have hne : c ≠ '=' := fun he => h (he ▸ hc)
    simpa using hne
  have hdrop : (key ++ '=' :: value).dropWhile (· ≠ '=') = '=' :: value := by
    rw [List.dropWhile_append_of_pos hkey]
    rfl
  have htake : (key ++ '=' :: value).takeWhile (· ≠ '=') = key := by
    rw [List.takeWhile_append_of_pos hkey]
    simp
  rw [assignment?, hdrop, htake]

section

variable (h : v.IsReadable) (isExample : Bool)

include h

theorem assignment?_assigningLine :
    assignment? (v.assigningLine isExample) = some (v.key, v.given isExample) := by
  rw [assigningLine, assignment?_cut h.key_equals, String.ofList_toList, String.ofList_toList]

theorem isAssigning_assigningLine : isAssigning (v.assigningLine isExample) = true := by
  have hremark := h.key_remark
  unfold isAssigning assigningLine
  cases hkey : v.key.toList with
  | nil => rfl
  | cons c cs =>
    rw [hkey] at hremark
    simpa using hremark

theorem lineFeed_notMem_assigningLine : '\n' ∉ v.assigningLine isExample := by
  have hvalue := h.value_line
  have hexample := h.example_line
  cases isExample <;> simp [assigningLine, given, h.key_line, hvalue, hexample]

theorem lineFeed_notMem_lines : ∀ line ∈ v.lines isExample, '\n' ∉ line.toList := by
  intro line hline
  have hassigned := lineFeed_notMem_assigningLine h isExample
  unfold lines at hline
  -- The remark, if there is one, and then the assignment with the empty line behind it.
  rcases List.mem_append.mp hline with hremark | hrest
  · cases hc : v.comment with
    | none => rw [hc] at hremark; cases hremark
    | some c =>
      rw [hc] at hremark
      by_cases he : c = ""
      · simp [he] at hremark
      · have hcomment := h.comment_line c hc
        simp only [he, if_false, List.mem_singleton] at hremark
        subst hremark
        simp [hcomment]
  · simp only [List.mem_cons, List.not_mem_nil, or_false] at hrest
    rcases hrest with rfl | rfl
    · simpa [assigningLine, given, apply_ite String.toList] using hassigned
    · simp

theorem filter_lines : ((v.lines isExample).map String.toList).filter isAssigning =
    [v.assigningLine isExample] := by
  have hline : (v.key ++ "=" ++ if isExample then v.example else v.value).toList =
      v.assigningLine isExample := by
    simp [assigningLine, given]
  have hrest : [v.assigningLine isExample, []].filter isAssigning =
      [v.assigningLine isExample] := by
    rw [List.filter_cons_of_pos (isAssigning_assigningLine h isExample)]
    rfl
  unfold lines
  rw [List.map_append, List.filter_append, List.map_cons, List.map_cons, hline]
  -- What is left to see is that a remark, empty or not, does not pass the filter.
  refine (congrArg (_ ++ ·) hrest).trans ?_
  cases v.comment with
  | none => rfl
  | some c => by_cases he : c = "" <;> simp [he, isAssigning]

end

/-! ## Files -/

/-- Lines are found again as they were put together; no lines at all make one empty line. -/
theorem filter_splitOn_intercalate (h : ∀ line ∈ ls, '\n' ∉ line.toList) :
    (("\n".intercalate ls).toList.splitOn '\n').filter isAssigning =
      (ls.map String.toList).filter isAssigning := by
  by_cases hls : ls = []
  · subst hls
    rfl
  · have hfeeds : ∀ line ∈ ls.map String.toList, '\n' ∉ line := List.forall_mem_map.mpr h
    have hsome : ls.map String.toList ≠ [] := by simpa using hls
    rw [String.toList_intercalate, show "\n".toList = ['\n'] from rfl,
      List.splitOn_intercalate '\n' hfeeds hsome]

theorem header_remarks : (∀ line ∈ header, '\n' ∉ line.toList) ∧
    (header.map String.toList).filter isAssigning = [] := by
  decide +kernel

theorem filter_flatMap_lines (h : ∀ v ∈ vars, v.IsReadable) (isExample : Bool) :
    ((vars.flatMap (lines isExample)).map String.toList).filter isAssigning =
      vars.map (assigningLine isExample) := by
  induction vars with
  | nil => rfl
  | cons v vars ih =>
    obtain ⟨hv, hvs⟩ := List.forall_mem_cons.mp h
    rw [List.flatMap_cons, List.map_append, List.filter_append, filter_lines hv, ih hvs]
    rfl

/-- **Environment files say what they were given.** From both kinds of file, with remarks or without
and with any values, a reader gets exactly the variables that the file was made of, in their order.
-/
theorem assignments_fileText (h : ∀ v ∈ vars, v.IsReadable) (isExample : Bool) :
    assignments (fileText vars isExample) =
      vars.map fun v => some (v.key, v.given isExample) := by
  have hheader : (∀ line ∈ if isExample then header else [], '\n' ∉ line.toList) ∧
      ((if isExample then header else []).map String.toList).filter isAssigning = [] := by
    cases isExample with
    | true => exact header_remarks
    | false => exact ⟨nofun, rfl⟩
  have hfeeds : ∀ line ∈ (if isExample then header else []) ++ vars.flatMap (lines isExample),
      '\n' ∉ line.toList := by
    intro line hline
    rcases List.mem_append.mp hline with hhead | hvars
    · exact hheader.1 line hhead
    · obtain ⟨v, hv, hin⟩ := List.mem_flatMap.mp hvars
      exact lineFeed_notMem_lines (h v hv) isExample line hin
  rw [assignments, fileText, filter_splitOn_intercalate hfeeds, List.map_append,
    List.filter_append, hheader.2, filter_flatMap_lines h, List.nil_append, List.map_map]
  exact List.map_congr_left fun v hv => assignment?_assigningLine (h v hv) isExample

/-- Variables with and without remarks, with an empty key and values that look like other lines. -/
def sampleVariables : List Variable := [
  ⟨"URL", "a=b#c", "", some "where = what"⟩,
  ⟨"", "", "# none", none⟩,
  ⟨"é x", "=", "==", some ""⟩,
  ⟨"URL", "#", "a=b#c", some "#"⟩]

theorem assignments_fileText_of_sample : (∀ v ∈ sampleVariables, v.IsReadable) ∧
    assignments (fileText sampleVariables false) =
      [some ("URL", "a=b#c"), some ("", ""), some ("é x", "="), some ("URL", "#")] ∧
    assignments (fileText sampleVariables true) =
      [some ("URL", ""), some ("", "# none"), some ("é x", "=="), some ("URL", "a=b#c")] := by
  have hreadable : ∀ v ∈ sampleVariables, v.IsReadable := by
    simp only [sampleVariables, List.forall_mem_cons]
    refine ⟨?_, ?_, ?_, ?_, nofun⟩
    all_goals exact ⟨by decide, by decide, by decide, by decide, by decide, by simp⟩
  exact ⟨hreadable, assignments_fileText hreadable false, assignments_fileText hreadable true⟩

end Scaffold.Variable
