import Scaffold.Issue
import Scaffold.Path.Basic
import Scaffold.Text.Case

/-!
# Options

How a run is tuned: where templates come from, whether a failed run is undone, and whether it
reports details. Options come from a record or from environment variables.
-/

namespace Scaffold

structure Options where
  /-- The root of the templates; the bundled ones if there is none. -/
  templates : Option Path
  undoOnFailure : Bool
  verbose : Bool
  deriving DecidableEq, Repr

namespace Options

def default : Options := ⟨none, true, false⟩

def recordName : String := "ScaffoldSettings"

def asciiLower (s : String) : String := s.map Char.toLower

/-- Numbers of this size or more, the sixty-third power of two, are no candidates for a flag. -/
def wordLimit : Int := 9223372036854775808

/-- A flag: a truth value, zero or one, or one of the words for yes and no in any case. -/
def flag (x : Json) : Except Problem Bool :=
  match x with
  | .bool b => .ok b
  | .int n =>
    if n = 0 then .ok false
    else if n = 1 then .ok true
    else if -wordLimit ≤ n && n < wordLimit then .error .unclearFlag
    else .error .notFlag
  | .float x => match x.value? with
    | some q =>
      if q = 0 then .ok false
      else if q = 1 then .ok true
      else if q.isInt && -(wordLimit : Rat) < q && q < (wordLimit : Rat) then .error .unclearFlag
      else .error .notFlag
    | none => .error .notFlag
  | .str s =>
    let word := asciiLower s
    if ["0", "off", "f", "false", "n", "no"].contains word then .ok false
    else if ["1", "on", "t", "true", "y", "yes"].contains word then .ok true
    else .error .unclearFlag
  | _ => .error .notFlag

def pathOrNull (x : Json) : Except Problem (Option Path) :=
  match x with
  | .null => .ok none
  | .str s => .ok (some (Path.ofString s))
  | _ => .error .notPath

def readOr {α : Type} (fields : List (String × Json)) (name : String) (otherwise : α)
    (value : Json → Except Problem α) : Except Issue α :=
  match Json.lastField? name fields with
  | none => .ok otherwise
  | some x => (value x).mapError (⟨some name, ·⟩)

/-- Reads options; other fields are passed over. -/
def ofFields (fields : List (String × Json)) : Except (List Issue) Options :=
  let templates := readOr fields "templates_dir" default.templates pathOrNull
  let undo := readOr fields "rollback_on_failure" default.undoOnFailure flag
  let verbose := readOr fields "verbose" default.verbose flag
  match templates, undo, verbose with
  | .ok templates, .ok undo, .ok verbose => .ok ⟨templates, undo, verbose⟩
  | templates, undo, verbose =>
    .error (Issue.ofResult templates ++ Issue.ofResult undo ++ Issue.ofResult verbose)

/-- The value of a variable; an empty one counts as unset. -/
def nonEmpty? (env : List (String × String)) (name : String) : Option String :=
  (env.lookup name).filter (· ≠ "")

/-- A switch is on unless it says zero, false, no or off. -/
def isOn (s : String) : Bool :=
  let word := String.ofList (Text.lower (Text.trim s.toList))
  !(["0", "false", "no", "off"].contains word)

def ofEnvironment (env : List (String × String)) : Options where
  templates := (nonEmpty? env "BACKFORGE_TEMPLATES_DIR").map Path.ofString
  undoOnFailure := ((nonEmpty? env "BACKFORGE_ROLLBACK").map isOn).getD default.undoOnFailure
  verbose := ((nonEmpty? env "BACKFORGE_VERBOSE").map isOn).getD default.verbose

end Options

inductive LogLevel where
  | debug
  | info
  deriving DecidableEq, Repr

def LogLevel.name : LogLevel → String
  | debug => "DEBUG"
  | info => "INFO"

/-- How the program reports: the number of its outlets and from which level on. -/
structure Reporting where
  outlets : Nat
  level : LogLevel
  deriving DecidableEq, Repr

namespace Reporting

def initial : Reporting := ⟨0, .info⟩

/-- Sets the level and makes sure of one outlet. -/
def setUp (r : Reporting) (verbose : Bool) : Reporting :=
  ⟨max r.outlets 1, if verbose then .debug else .info⟩

end Reporting

end Scaffold
