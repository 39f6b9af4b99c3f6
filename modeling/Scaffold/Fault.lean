import Scaffold.Blueprint.Decode
import Scaffold.Store.Resolve
import Scaffold.Template.Trouble

/-!
# Faults

Everything that can stop a run, by its cause.
-/

namespace Scaffold

inductive Fault where
  /-- The system refuses an operation on a path. -/
  | refused (why : Refusal) (path : String)
  /-- A path with a NUL. -/
  | nulInPath
  /-- A file that is no UTF-8 text. -/
  | notText
  /-- A text that has no form in UTF-8. -/
  | unencodable
  | templateMissing (path resolved : String)
  | staticMissing (path resolved : String)
  /-- A file that holds no usable template. -/
  | unusableTemplate (path : String) (why : Flaw)
  /-- A template stops while it is being rendered. -/
  | rendering (why : Trouble)
  | unsupportedDatabase (database : Database)
  | rejected (why : Rejection)
  deriving DecidableEq, Repr

namespace Fault

/-- What a fault says. Words that are not given are about numbers, types, bytes and places in them:
they hold no bracket and do not end in a backslash, so they are never taken for markup. -/
def words? : Fault → Option String
  | refused why path =>
    some ("[Errno " ++ toString why.code ++ "] " ++ why.text ++ ": " ++ Text.quoted path)
  | nulInPath => some "embedded null byte"
  | templateMissing path resolved =>
    some ("Template not found: " ++ path ++ "\nExpected at: " ++ resolved)
  | staticMissing path resolved =>
    some ("Static file not found: " ++ path ++ "\nExpected at: " ++ resolved)
  | unusableTemplate path (.malformed detail) =>
    some ("Failed to compile template: " ++ path ++ "\nJinja2 error: " ++ detail)
  | unusableTemplate path why => why.words? ((Path.ofString path).names.getLast?.getD "")
  | rendering why => why.words?
  | unsupportedDatabase database => some ("Unsupported database: " ++ database.word)
  | rejected why => some why.message
  | notText | unencodable => none

end Fault

/-- How two operations ended can be compared. -/
instance decidableEqOutcome {ε α : Type} [DecidableEq ε] [DecidableEq α] :
    DecidableEq (Except ε α)
  | .ok a, .ok b => decidable_of_iff (a = b) ⟨congrArg _, Except.ok.inj⟩
  | .error e, .error f => decidable_of_iff (e = f) ⟨congrArg _, Except.error.inj⟩
  | .ok _, .error _ => isFalse nofun
  | .error _, .ok _ => isFalse nofun

section

variable {ε ε' α : Type} (rename : ε → ε')

@[simp] theorem mapError_ok (a : α) : (Except.ok a).mapError rename = .ok a := rfl

@[simp] theorem mapError_error (e : ε) :
    (Except.error e : Except ε α).mapError rename = .error (rename e) := rfl

end

end Scaffold
