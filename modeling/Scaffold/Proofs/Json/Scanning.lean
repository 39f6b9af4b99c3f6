import Scaffold.Json.Parser
import Scaffold.Json.Printer

/-!
# Scanning what was printed

`Json.tokens` is what a printed value is cut into, and `scanFrom_chars` says that the scan finds
just these tokens, wherever the value stands. A text is always found again, escapes and all
(`scanFrom_stringChars`); numbers are found again if their own text reads back (`IsLegible`).
-/

namespace Scaffold.Json

open Text Token

mutual

def tokens : Json → List Token
  | str s => [.plain (str s) 0]
  | arr [] => [.openArray, .closeArray]
  | arr (x :: xs) => .openArray :: tokens x ++ itemTokens xs ++ [.closeArray]
  | obj [] => [.openObject, .closeObject]
  | obj (f :: fs) => .openObject :: fieldTokens f ++ moreFieldTokens fs ++ [.closeObject]
  | x => [.plain x (wholeLength (chars 0 x))]

def fieldTokens : String × Json → List Token
  | (key, x) => .plain (str key) 0 :: .colon :: tokens x

def itemTokens : List Json → List Token
  | [] => []
  | x :: xs => .comma :: tokens x ++ itemTokens xs

def moreFieldTokens : List (String × Json) → List Token
  | [] => []
  | f :: fs => .comma :: fieldTokens f ++ moreFieldTokens fs

end

/-- The characters of a number or a word that is read back as the value. -/
structure IsWordOf (cs : List Char) (x : Json) : Prop where
  chars : ∀ c ∈ cs, isWordChar c = true
  read : plain? cs = some x

mutual

/-- Every number in the value is read back from its own text. -/
def IsLegible : Json → Prop
  | int n => IsWordOf (Number.intText n) (int n)
  | float x => IsWordOf (floatChars x) (float x)
  | arr xs => AreLegible xs
  | obj fs => AreLegibleFields fs
  | _ => True

def AreLegible : List Json → Prop
  | [] => True
  | x :: xs => IsLegible x ∧ AreLegible xs

def AreLegibleFields : List (String × Json) → Prop
  | [] => True
  | (_, x) :: fs => IsLegible x ∧ AreLegibleFields fs

end

variable {c : Char} {cs rest read : List Char} {mode mode' : Mode} {found : List Token} {x : Json}

theorem scanFrom_cons (h : next? c mode = some (found, mode')) :
    scanFrom mode (c :: cs) = (scanFrom mode' cs).map (found ++ ·) := by
  simp only [scanFrom, h, Option.bind_eq_bind, Option.bind_some]
  cases scanFrom mode' cs <;> rfl

theorem scanFrom_step (h : next? c mode = some ([], mode')) :
    scanFrom mode (c :: cs) = scanFrom mode' cs := by
  rw [scanFrom_cons h]
  simp

theorem scanFrom_blanks (n : Nat) :
    scanFrom .between (List.replicate n ' ' ++ rest) = scanFrom .between rest := by
  induction n with
  | zero => rfl
  | succ n ih => rw [List.replicate_succ, List.cons_append, scanFrom_step rfl, ih]

theorem scanFrom_newLine (depth : Nat) :
    scanFrom .between (newLine depth ++ rest) = scanFrom .between rest := by
  rw [newLine, List.cons_append, scanFrom_step rfl, scanFrom_blanks]

/-! ## Texts -/

theorem hexValue?_digitChar : ∀ d < 16, hexValue? (Nat.digitChar d) = some d := by decide

/-- A hexadecimal digit with more of them to come. -/
theorem scanFrom_digit {d left value : Nat} {high : Option Nat} (hd : d < 16) (hl : 1 < left) :
    scanFrom (.code left value high read) (Nat.digitChar d :: rest) =
      scanFrom (.code (left - 1) (value * 16 + d) high read) rest := by
  refine scanFrom_step ?_
  simp [next?, hexValue?_digitChar d hd, show ¬ left ≤ 1 by omega]

/-- A control that is written by its code is read back. -/
theorem scanFrom_code (h : c.toNat < 0x20) :
    scanFrom (.text read) ('\\' :: 'u' :: hexDigits 4 c.toNat ++ rest) =
      scanFrom (.text (c :: read)) rest := by
  -- below 32 the first two of the four digits are zeros
  have hdigits : hexDigits 4 c.toNat = [Nat.digitChar 0, Nat.digitChar 0,
      Nat.digitChar (c.toNat / 16), Nat.digitChar (c.toNat % 16)] := by
    have h3 : c.toNat / 16 / 16 / 16 % 16 = 0 := by omega
    have h2 : c.toNat / 16 / 16 % 16 = 0 := by omega
    have h1 : c.toNat / 16 % 16 = c.toNat / 16 := by omega
    simp only [hexDigits, h3, h2, h1, List.nil_append, List.cons_append]
  have hlast : next? (Nat.digitChar (c.toNat % 16))
      (.code 1 (((0 * 16 + 0) * 16 + 0) * 16 + c.toNat / 16) none read) =
        some ([], .text (c :: read)) := by
    have hvalue : (((0 * 16 + 0) * 16 + 0) * 16 + c.toNat / 16) * 16 + c.toNat % 16 = c.toNat := by
      omega
    have hunit : unit? c.toNat read none = some (.text (c :: read)) := by
      rw [unit?, if_neg (by omega), if_neg (by omega), Char.ofNat_toNat]
    simp only [next?, hexValue?_digitChar (c.toNat % 16) (by omega), Option.bind_eq_bind,
      Option.bind_some, hvalue, Nat.le_refl, if_true, hunit]
  rw [hdigits]
  simp only [List.cons_append, List.nil_append]
  rw [scanFrom_step rfl, scanFrom_step rfl, scanFrom_digit (by omega) (by omega),
    scanFrom_digit (by omega) (by omega), scanFrom_digit (by omega) (by omega),
    scanFrom_step hlast]

theorem scanFrom_escapedChar (c : Char) :
    scanFrom (.text read) (escapedChar c ++ rest) = scanFrom (.text (c :: read)) rest := by
  unfold escapedChar
  split
  · next h =>
    rcases h with rfl | rfl <;>
      rw [List.cons_append, List.cons_append, scanFrom_step rfl, scanFrom_step rfl] <;> rfl
  iterate 5
    split
    · next h =>
      subst h
      rw [List.cons_append, List.cons_append, scanFrom_step rfl, scanFrom_step rfl]; rfl
  split
  · next h => exact scanFrom_code h
  · next hq hb hn hr ht h08 hlow =>
    simp only [not_or] at hq
    exact scanFrom_step (by rw [next?, if_neg hq.1, if_neg hq.2, if_neg hlow])

theorem scanFrom_stringChars (s : String) :
    scanFrom .between (stringChars s ++ rest) =
      (scanFrom .between rest).map (.plain (str s) 0 :: ·) := by
  -- by induction on the characters to come, over those that were read
  have hinner (cs read : List Char) :
      scanFrom (.text read) (cs.flatMap escapedChar ++ ('"' :: rest)) =
        (scanFrom .between rest).map
          (.plain (str (String.ofList (read.reverse ++ cs))) 0 :: ·) := by
    induction cs generalizing read with
    | nil =>
      have hend : next? '"' (.text read) =
          some ([.plain (str (String.ofList read.reverse)) 0], .between) := rfl
      simpa using scanFrom_cons hend
    | cons c cs ih =>
      rw [List.flatMap_cons, List.append_assoc, scanFrom_escapedChar, ih]
      simp
  rw [stringChars, List.append_assoc, List.cons_append, scanFrom_step rfl]
  simpa using hinner s.toList []

/-! ## Numbers and words -/

/-- What follows does not belong to a word before it. -/
def StartsNoWord (rest : List Char) : Prop := ∀ c ∈ rest.head?, isWordChar c = false

theorem between?_of_isWordChar (h : isWordChar c = true) : between? c = some ([], .word [c]) := by
  have hother : ∀ d ∈ [' ', '\t', '\n', '\r', '[', ']', '\x7b', '\x7d', ',', ':', '"'],
      isWordChar d = false := by simp [isWordChar]
  have hne : ∀ d ∈ [' ', '\t', '\n', '\r', '[', ']', '\x7b', '\x7d', ',', ':', '"'], c ≠ d := by
    intro d hd he
    rw [he, hother d hd] at h
    cases h
  simp only [List.forall_mem_cons] at hne
  unfold between?
  simp [h, hne]

theorem scanFrom_wordChars (h : ∀ c ∈ cs, isWordChar c = true) :
    scanFrom (.word read) (cs ++ rest) = scanFrom (.word (cs.reverse ++ read)) rest := by
  induction cs generalizing read with
  | nil => rfl
  | cons c cs ih =>
    obtain ⟨hc, hcs⟩ := List.forall_mem_cons.mp h
    rw [List.cons_append, scanFrom_step (by rw [next?, if_pos hc]), ih hcs]
    simp

/-- A word ends where no character of a word follows. -/
theorem scanFrom_wordEnd {t : Token} (hw : word? read.reverse = some t) (hr : StartsNoWord rest) :
    scanFrom (.word read) rest = (scanFrom .between rest).map (t :: ·) := by
  cases rest with
  | nil => simp [scanFrom, hw]
  | cons c cs =>
    have hc : isWordChar c = false := hr c rfl
    have hnext : next? c (.word read) = (between? c).map fun r => (t :: r.1, r.2) := by
      simp only [next?, hc, hw, Option.bind_eq_bind, Option.bind_some, Bool.false_eq_true, if_false]
      cases between? c <;> rfl
    cases hb : between? c with
    | none =>
      rw [hb, Option.map_none] at hnext
      simp only [scanFrom, hnext, show next? c .between = none from hb, Option.bind_eq_bind,
        Option.bind_none, Option.map_none]
    | some r =>
      rw [hb] at hnext
      have hplain : next? c .between = some (r.1, r.2) := hb
      rw [scanFrom_cons hnext, scanFrom_cons hplain]
      cases scanFrom r.2 cs <;> rfl

theorem scanFrom_word (h : IsWordOf cs x) (hr : StartsNoWord rest) :
    scanFrom .between (cs ++ rest) =
      (scanFrom .between rest).map (.plain x (wholeLength cs) :: ·) := by
  cases cs with
  | nil =>
    have hnone : plain? [] = none := by decide
    have hread := h.read
    rw [hnone] at hread
    cases hread
  | cons c cs =>
    obtain ⟨hc, hcs⟩ := List.forall_mem_cons.mp h.chars
    have hw : word? (cs.reverse ++ [c]).reverse = some (.plain x (wholeLength (c :: cs))) := by
      simp [word?, h.read]
    have hfirst : next? c .between = some ([], .word [c]) := between?_of_isWordChar hc
    rw [List.cons_append, scanFrom_step hfirst, scanFrom_wordChars hcs,
      scanFrom_wordEnd hw hr]

theorem isWordOf_null : IsWordOf "null".toList null :=
  ⟨List.all_eq_true.mp (by decide), rfl⟩

theorem isWordOf_true : IsWordOf "true".toList (bool true) :=
  ⟨List.all_eq_true.mp (by decide), rfl⟩

theorem isWordOf_false : IsWordOf "false".toList (bool false) :=
  ⟨List.all_eq_true.mp (by decide), rfl⟩

/-! ## Values -/

theorem startsNoWord_newLine (depth : Nat) : StartsNoWord (newLine depth ++ rest) := by
  rintro c ⟨⟩
  rfl

theorem startsNoWord_moreItems (depth : Nat) (xs : List Json) (hr : StartsNoWord rest) :
    StartsNoWord (moreItems depth xs ++ rest) := by
  cases xs with
  | nil => exact hr
  | cons x xs => rintro c ⟨⟩; rfl

theorem startsNoWord_moreFields (depth : Nat) (fs : List (String × Json)) (hr : StartsNoWord rest) :
    StartsNoWord (moreFields depth fs ++ rest) := by
  cases fs with
  | nil => exact hr
  | cons f fs => rintro c ⟨⟩; rfl

mutual

-- A number ends only where something else begins, so each part of a value is followed by what
-- starts no word.
/-- The tokens of a printed value are found where it stands. -/
theorem scanFrom_chars (depth : Nat) : ∀ (x : Json) {rest : List Char}, IsLegible x →
    StartsNoWord rest →
    scanFrom .between (chars depth x ++ rest) = (scanFrom .between rest).map (tokens x ++ ·)
  | null, _, _, hr => scanFrom_word isWordOf_null hr
  | bool true, _, _, hr => scanFrom_word isWordOf_true hr
  | bool false, _, _, hr => scanFrom_word isWordOf_false hr
  | int _, _, h, hr => scanFrom_word h hr
  | float _, _, h, hr => scanFrom_word h hr
  | str s, _, _, _ => scanFrom_stringChars s
  | arr [], rest, _, _ => by
    rw [chars, List.cons_append, List.cons_append, scanFrom_cons rfl, scanFrom_cons rfl]
    simp [tokens, Function.comp_def]
  | arr (x :: xs), rest, ⟨hx, hxs⟩, _ => by
    have hend : StartsNoWord (newLine depth ++ (']' :: rest)) := startsNoWord_newLine depth
    simp only [chars, List.cons_append, List.append_assoc, List.nil_append]
    rw [scanFrom_cons rfl, scanFrom_newLine,
      scanFrom_chars (depth + 1) x hx (startsNoWord_moreItems _ xs hend),
      scanFrom_moreItems (depth + 1) xs hxs hend, scanFrom_newLine, scanFrom_cons rfl]
    simp [tokens, Function.comp_def]
  | obj [], rest, _, _ => by
    rw [chars, List.cons_append, List.cons_append, scanFrom_cons rfl, scanFrom_cons rfl]
    simp [tokens, Function.comp_def]
  | obj ((key, x) :: fs), rest, ⟨hx, hfs⟩, _ => by
    have hend : StartsNoWord (newLine depth ++ ('\x7d' :: rest)) := startsNoWord_newLine depth
    simp only [chars, List.cons_append, List.append_assoc, List.nil_append]
    rw [scanFrom_cons rfl, scanFrom_newLine,
      scanFrom_fieldChars (depth + 1) (key, x) hx (startsNoWord_moreFields _ fs hend),
      scanFrom_moreFields (depth + 1) fs hfs hend, scanFrom_newLine, scanFrom_cons rfl]
    simp [tokens, Function.comp_def]

theorem scanFrom_fieldChars (depth : Nat) : ∀ (f : String × Json) {rest : List Char},
    IsLegible f.2 → StartsNoWord rest →
    scanFrom .between (fieldChars depth f ++ rest) =
      (scanFrom .between rest).map (fieldTokens f ++ ·)
  | (key, x), rest, hx, hr => by
    simp only [fieldChars, List.cons_append, List.append_assoc]
    rw [scanFrom_stringChars, scanFrom_cons rfl, scanFrom_step rfl, scanFrom_chars depth x hx hr]
    simp [fieldTokens, Function.comp_def]

theorem scanFrom_moreItems (depth : Nat) : ∀ (xs : List Json) {rest : List Char}, AreLegible xs →
    StartsNoWord rest →
    scanFrom .between (moreItems depth xs ++ rest) =
      (scanFrom .between rest).map (itemTokens xs ++ ·)
  | [], _, _, _ => by simp [moreItems, itemTokens]
  | x :: xs, rest, ⟨hx, hxs⟩, hr => by
    simp only [moreItems, List.cons_append, List.append_assoc]
    rw [scanFrom_cons rfl, scanFrom_newLine,
      scanFrom_chars depth x hx (startsNoWord_moreItems depth xs hr),
      scanFrom_moreItems depth xs hxs hr]
    simp [itemTokens, Function.comp_def]

theorem scanFrom_moreFields (depth : Nat) : ∀ (fs : List (String × Json)) {rest : List Char},
    AreLegibleFields fs → StartsNoWord rest →
    scanFrom .between (moreFields depth fs ++ rest) =
      (scanFrom .between rest).map (moreFieldTokens fs ++ ·)
  | [], _, _, _ => by simp [moreFields, moreFieldTokens]
  | (key, x) :: fs, rest, ⟨hx, hfs⟩, hr => by
    simp only [moreFields, List.cons_append, List.append_assoc]
    rw [scanFrom_cons rfl, scanFrom_newLine,
      scanFrom_fieldChars depth (key, x) hx (startsNoWord_moreFields depth fs hr),
      scanFrom_moreFields depth fs hfs hr]
    simp [moreFieldTokens, Function.comp_def]

end

theorem scan_pretty (h : IsLegible x) : scan x.pretty.toList = some (tokens x) := by
  have hend : StartsNoWord [] := nofun
  have := scanFrom_chars 0 x h hend
  simpa [scan, pretty, scanFrom] using this

/-! ## Line ends

Line feeds end the lines of a printed value; no carriage return stands in it. -/

theorem return_notMem_hexDigits (width n : Nat) : '\r' ∉ hexDigits width n := by
  have hdigit : ∀ d < 16, '\r' ≠ Nat.digitChar d := by decide
  induction width generalizing n with
  | zero => exact List.not_mem_nil
  | succ width ih =>
    rw [hexDigits, List.mem_append, List.mem_singleton]
    exact not_or.mpr ⟨ih _, hdigit _ (Nat.mod_lt _ (by decide))⟩

theorem return_notMem_escapedChar (c : Char) : '\r' ∉ escapedChar c := by
  unfold escapedChar
  split
  · next h => rcases h with rfl | rfl <;> decide
  iterate 5
    split
    · decide
  split
  · simpa using return_notMem_hexDigits 4 c.toNat
  · simpa using Ne.symm ‹¬c = '\r'›

theorem return_notMem_stringChars (s : String) : '\r' ∉ stringChars s := by
  have hinner : '\r' ∉ s.toList.flatMap escapedChar := by
    rw [List.mem_flatMap]
    rintro ⟨c, -, hc⟩
    exact return_notMem_escapedChar c hc
  simpa [stringChars] using hinner

theorem IsWordOf.return_notMem (h : IsWordOf cs x) : '\r' ∉ cs := fun hm =>
  absurd (h.chars _ hm) (by decide)

theorem return_notMem_newLine (depth : Nat) : '\r' ∉ newLine depth := by
  simp [newLine]

mutual

theorem return_notMem_chars (depth : Nat) : ∀ x : Json, IsLegible x → '\r' ∉ chars depth x
  | null, _ => isWordOf_null.return_notMem
  | bool true, _ => isWordOf_true.return_notMem
  | bool false, _ => isWordOf_false.return_notMem
  | int _, h | float _, h => IsWordOf.return_notMem h
  | str s, _ => return_notMem_stringChars s
  | arr [], _ | obj [], _ => by simp [chars]
  | arr (x :: xs), ⟨hx, hxs⟩ => by
    simp [chars, return_notMem_newLine, return_notMem_chars (depth + 1) x hx,
      return_notMem_moreItems (depth + 1) xs hxs]
  | obj ((key, x) :: fs), ⟨hx, hfs⟩ => by
    simp [chars, fieldChars, return_notMem_newLine, return_notMem_stringChars,
      return_notMem_chars (depth + 1) x hx, return_notMem_moreFields (depth + 1) fs hfs]

theorem return_notMem_moreItems (depth : Nat) : ∀ xs : List Json, AreLegible xs →
    '\r' ∉ moreItems depth xs
  | [], _ => by simp [moreItems]
  | x :: xs, ⟨hx, hxs⟩ => by
    simp [moreItems, return_notMem_newLine, return_notMem_chars depth x hx,
      return_notMem_moreItems depth xs hxs]

theorem return_notMem_moreFields (depth : Nat) : ∀ fs : List (String × Json), AreLegibleFields fs →
    '\r' ∉ moreFields depth fs
  | [], _ => by simp [moreFields]
  | (key, x) :: fs, ⟨hx, hfs⟩ => by
    simp [moreFields, fieldChars, return_notMem_newLine, return_notMem_stringChars,
      return_notMem_chars depth x hx, return_notMem_moreFields depth fs hfs]

end

end Scaffold.Json
