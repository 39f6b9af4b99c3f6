import Scaffold.Text.IdentifierTable

/-!
# Names

A name begins with a letter or a low line and goes on with letters, digits, marks and low lines, in
the sense of the Unicode identifier properties.
-/

namespace Scaffold.Text

def isNameStart (c : Char) : Bool := nameStartRanges.contains c.toNat

def isNameContinue (c : Char) : Bool := nameContinueRanges.contains c.toNat

end Scaffold.Text
