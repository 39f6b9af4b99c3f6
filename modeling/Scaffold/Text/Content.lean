import Scaffold.Text.Quoted

/-!
# Contents

A text can hold surrogates, code points that stand for no character and have no form in UTF-8. A
`Content` is a text of any code points; `Content.text?` is the text of characters that it is, if it
is one.
-/

namespace Scaffold

inductive CodePoint where
  | char (c : Char)
  /-- A surrogate by its distance from the first one. -/
  | surrogate (n : Fin 0x800)
  deriving DecidableEq, Repr

namespace CodePoint

def code : CodePoint → Nat
  | char c => c.toNat
  | surrogate n => 0xd800 + n

/-- The code point of a number; there is none beyond the last character. -/
def ofNat? (n : Nat) : Option CodePoint :=
  if h : 0xd800 ≤ n ∧ n < 0xe000 then some (.surrogate ⟨n - 0xd800, by omega⟩)
  else if n < 0x110000 then some (.char (Char.ofNat n))
  else none

def char? : CodePoint → Option Char
  | char c => some c
  | surrogate _ => none

end CodePoint

structure Content where
  points : List CodePoint
  deriving DecidableEq, Repr

namespace Content

def ofString (s : String) : Content := ⟨s.toList.map .char⟩

instance : Coe String Content := ⟨ofString⟩

instance : Append Content := ⟨fun a b => ⟨a.points ++ b.points⟩⟩

def chars? (c : Content) : Option (List Char) := c.points.mapM CodePoint.char?

def text? (c : Content) : Option String := c.chars?.map String.ofList

def bytes? (c : Content) : Option ByteArray := c.text?.map String.toUTF8

/-- The quoted form, in which surrogates are escaped like characters without a visible form. -/
def quoted (c : Content) : String :=
  let q := Text.quoteFor (c.points.filterMap CodePoint.char?)
  String.ofList (q :: c.points.flatMap (fun p => match p with
    | .char d => Text.quotedChar q d
    | .surrogate _ => '\\' :: 'u' :: Text.hexDigits 4 p.code) ++ [q])

variable {s t : String}

@[simp] theorem chars?_ofString (s : String) : (ofString s).chars? = some s.toList := by
  unfold chars? ofString
  induction s.toList with
  | nil => rfl
  | cons c cs ih => simp_all [CodePoint.char?]

@[simp] theorem text?_ofString (s : String) : (ofString s).text? = some s := by
  simp [text?]

@[simp] theorem bytes?_ofString (s : String) : (ofString s).bytes? = some s.toUTF8 := by
  simp [bytes?]

theorem ofString_append (s t : String) : ofString (s ++ t) = ofString s ++ ofString t := by
  show (⟨(s ++ t).toList.map CodePoint.char⟩ : Content) =
    ⟨s.toList.map .char ++ t.toList.map .char⟩
  rw [String.toList_append, List.map_append]

end Content

end Scaffold
