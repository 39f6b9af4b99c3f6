/-!
# Troubles with templates

What can be wrong with the source of a template (`Flaw`), and what can stop a template that is being
rendered (`Trouble`).
-/

namespace Scaffold

/-- Why a source cannot be used as a template. -/
inductive Flaw where
  /-- It does not follow the grammar of its language, uses something that is not there, or uses a
  part of the language that is not read here. A language may say more about it. -/
  | malformed (detail : String := "")
  /-- A number with a fraction or an exponent has digits beyond ASCII. -/
  | foreignDigits
  /-- An integer has more digits than are read or written in base ten. -/
  | longInteger
  /-- A call gives a keyword twice, or one that no call may give. -/
  | badKeyword
  /-- Brackets stand too deep inside each other. -/
  | deepBrackets
  /-- A missing branch cannot be reported under the name of the template. -/
  | quotedName
  /-- Conditions stand too deep inside each other. -/
  | deepConditions
  /-- An expression is nested beyond all limits. -/
  | tooDeep
  /-- Anything else, in the words of the language. -/
  | other (words : String)
  deriving DecidableEq, Repr

inductive Trouble where
  /-- A filter that does not exist is reached. -/
  | unknownFilter (name : String)
  /-- A constant without a finite value is reached. -/
  | endlessConstant
  /-- A value that is not there is used. -/
  | undefined (message : String)
  /-- A value without a JSON form. -/
  | unserializable (type : String)
  /-- An operation on values of the wrong type, or a call with the wrong arguments. -/
  | typeMismatch
  /-- A number is too large for what it is used for. -/
  | outOfRange
  /-- An integer has more digits than are written in base ten. -/
  | longInteger
  /-- A dictionary has no such key; `key` is shown as it prints inside a list. -/
  | noKey (key : String)
  /-- A list has no such place. -/
  | noPlace
  /-- A value is not found, or is not of the right form. -/
  | badValue (words : String)
  /-- What the template does is defined, but not by the part of the language that is read here. -/
  | beyond
  /-- Anything else, in the words of the language. -/
  | other (words : String)
  deriving DecidableEq, Repr

/-- What a flaw says of a file of this name. Of words about the code that a template is made into
only the name of the file is given. -/
def Flaw.words? (file : String) : Flaw → Option String
  | malformed words | other words => some words
  | badKeyword | deepBrackets | quotedName | deepConditions => some ("(" ++ file ++ ")")
  | foreignDigits | longInteger | tooDeep => none

/-- What a trouble says, unless the words name types, operators and numbers only. -/
def Trouble.words? : Trouble → Option String
  | unknownFilter name => some ("No filter named '" ++ name ++ "' found.")
  | endlessConstant => some "name 'inf' is not defined"
  | undefined message => some message
  | unserializable type => some ("Object of type " ++ type ++ " is not JSON serializable")
  | noKey key => some key
  | badValue words | other words => some words
  | typeMismatch | outOfRange | longInteger | noPlace | beyond => none

end Scaffold
