import Scaffold.Proofs.Json.Scanning
import Scaffold.Proofs.Number.Shortest

/-!
# Numbers are read back

The text of an integer is read as that integer (`isWordOf_int`), and the text of a double as that
double (`isWordOf_float`), in whichever of its four layouts the digits stand.
-/

namespace Scaffold.Json

open Number Token Binary64

variable {c : Char} {cs ds whole rest : List Char} {negative : Bool} {n m : Nat} {e : Int}
  {d : Decimal}

theorem isDigit_toDigits : ∀ c ∈ Nat.toDigits 10 n, c.isDigit = true :=
  fun _ hc => Nat.isDigit_of_mem_toDigits (by decide) (by decide) hc

/-- Only zero is written with a zero in front. -/
theorem head_toDigits (hn : 0 < n) : (Nat.toDigits 10 n).head? ≠ some '0' := by
  induction n using Nat.strongRecOn with
  | _ n ih =>
    rw [Nat.toDigits_eq_if (by decide)]
    split
    · rw [List.head?_singleton, ne_eq, Option.some.injEq, Nat.digitChar_eq_zero]
      exact hn.ne'
    · have hne : Nat.toDigits 10 (n / 10) ≠ [] := Nat.toDigits_ne_nil
      rw [List.head?_append_of_ne_nil _ hne]
      exact ih (n / 10) (by omega) (by omega)

theorem digitsValue_toDigits (n : Nat) : digitsValue (Nat.toDigits 10 n) = n :=
  Nat.ofDigitChars_ten_toDigits

theorem digitsValue_append (ds es : List Char) :
    digitsValue (ds ++ es) = 10 ^ es.length * digitsValue ds + digitsValue es := by
  unfold digitsValue
  rw [Nat.ofDigitChars_append, Nat.ofDigitChars_eq_ofDigitChars_zero]

theorem digitsValue_zero : digitsValue ['0'] = 0 := rfl

theorem digitsValue_replicate (k : Nat) : digitsValue (List.replicate k '0') = 0 := by
  unfold digitsValue
  rw [Nat.ofDigitChars_replicate_zero, Nat.mul_zero]

/-- What follows is no further digit. -/
def EndsDigits (rest : List Char) : Prop := ∀ c ∈ rest.head?, c.isDigit = false

theorem spanDigits_append (h : ∀ c ∈ ds, c.isDigit = true) (hr : EndsDigits rest) :
    spanDigits (ds ++ rest) = (ds, rest) := by
  rw [spanDigits, List.span_eq_takeWhile_dropWhile, List.takeWhile_append_of_pos h,
    List.dropWhile_append_of_pos h]
  cases rest with
  | nil => simp
  | cons c rest => simp [hr c rfl]

/-- The whole part of a number: digits without a zero in front of others. -/
structure IsWhole (whole : List Char) : Prop where
  digits : ∀ c ∈ whole, c.isDigit = true
  nonempty : whole ≠ []
  lead : whole.head? = some '0' → whole.length = 1

def signed (negative : Bool) (cs : List Char) : List Char := if negative then '-' :: cs else cs

theorem isWhole_toDigits (n : Nat) : IsWhole (Nat.toDigits 10 n) where
  digits := isDigit_toDigits
  nonempty := Nat.toDigits_ne_nil
  lead h := by
    cases Nat.eq_zero_or_pos n with
    | inl hn => rw [hn, Nat.toDigits_zero]; rfl
    | inr hn => exact absurd h (head_toDigits hn)

def words : List String := ["true", "false", "null", "NaN", "Infinity", "-Infinity"]

theorem signed_ne_word (hc : c.isDigit = true) (negative : Bool) :
    ∀ w ∈ words, signed negative (c :: cs) ≠ w.toList := by
  have hheads : ∀ w ∈ words, w.toList.head?.any (·.isDigit) = false := by decide
  have hseconds : ∀ w ∈ words, w.toList.tail.head?.any (·.isDigit) = false := by decide
  intro w hw he
  cases negative with
  | false =>
    have hother := hheads w hw
    rw [← he] at hother
    exact absurd hc (ne_true_of_eq_false hother)
  | true =>
    have hother := hseconds w hw
    rw [← he] at hother
    exact absurd hc (ne_true_of_eq_false hother)

theorem plain?_signed (hc : c.isDigit = true) (negative : Bool) :
    plain? (signed negative (c :: cs)) = magnitude? negative (c :: cs) := by
  have hne : ∀ w ∈ words, signed negative (c :: cs) ≠ w.toList := signed_ne_word hc negative
  simp only [words, List.forall_mem_cons] at hne
  obtain ⟨h1, h2, h3, h4, h5, h6, -⟩ := hne
  unfold plain?
  rw [if_neg h1, if_neg h2, if_neg h3, if_neg h4, if_neg h5, if_neg h6]
  cases negative with
  | true => rfl
  | false =>
    unfold signed
    split
    · next heq =>
      cases heq
      cases hc
    · rfl

theorem magnitude?_append (h : IsWhole whole) (hr : EndsDigits rest) :
    magnitude? negative (whole ++ rest) =
      if rest.isEmpty then
        some (int (if negative then -digitsValue whole else digitsValue whole))
      else fraction? negative whole rest := by
  have hgood : ¬ (whole.isEmpty = true ∨ (whole.head? = some '0' ∧ whole.length ≠ 1)) := by
    rintro (hempty | ⟨hlead, hlength⟩)
    · exact h.nonempty (List.isEmpty_iff.mp hempty)
    · exact hlength (h.lead hlead)
  unfold magnitude?
  rw [spanDigits_append h.digits hr]
  dsimp only
  rw [if_neg hgood]

theorem fraction?_point (hd : ∀ c ∈ ds, c.isDigit = true) (hne : ds ≠ []) (hr : EndsDigits rest)
    (he : exponent? rest = some e) : fraction? negative whole ('.' :: (ds ++ rest)) =
      some (float (ofDecimal negative (digitsValue (whole ++ ds)) (e - ds.length))) := by
  simp only [fraction?]
  rw [spanDigits_append hd hr]
  simp [hne, he]

def exponentText (e : Int) : List Char :=
  'e' :: (if e < 0 then '-' else '+') :: Decimal.exponentDigits e.natAbs

theorem exponentDigits_spec (n : Nat) : (∀ c ∈ Decimal.exponentDigits n, c.isDigit = true) ∧
    Decimal.exponentDigits n ≠ [] ∧ digitsValue (Decimal.exponentDigits n) = n := by
  unfold Decimal.exponentDigits
  split
  · refine ⟨List.forall_mem_cons.mpr ⟨rfl, isDigit_toDigits⟩, List.cons_ne_nil _ _, ?_⟩
    rw [← List.singleton_append, digitsValue_append, digitsValue_zero, digitsValue_toDigits]
    simp
  · exact ⟨isDigit_toDigits, Nat.toDigits_ne_nil, digitsValue_toDigits n⟩

theorem exponent?_exponentText (e : Int) : exponent? (exponentText e) = some e := by
  obtain ⟨hdigits, hne, hvalue⟩ := exponentDigits_spec e.natAbs
  have hgood : ¬ ((Decimal.exponentDigits e.natAbs).isEmpty = true ∨
      (Decimal.exponentDigits e.natAbs).any (!·.isDigit) = true) := by
    rw [List.isEmpty_iff, List.any_eq_true]
    rintro (hempty | ⟨c, hc, hother⟩)
    · exact hne hempty
    · rw [hdigits c hc] at hother
      cases hother
  unfold exponentText
  split
  · next hneg =>
    simp only [exponent?, true_or, if_true]
    rw [if_neg hgood, hvalue]
    congr 1
    omega
  · next hpos =>
    simp only [exponent?, true_or, if_true]
    rw [if_neg hgood, hvalue]
    congr 1
    simp only [Bool.false_eq_true, if_false]
    omega

theorem fraction?_exponent (e : Int) : fraction? negative whole (exponentText e) =
    some (float (ofDecimal negative (digitsValue whole) e)) := by
  change (exponent? (exponentText e)).bind
    (fun e => some (float (ofDecimal negative (digitsValue whole) e))) = _
  rw [exponent?_exponentText]
  rfl

theorem endsDigits_exponentText (e : Int) : EndsDigits (exponentText e) := by
  rintro c ⟨⟩
  rfl

theorem endsDigits_point : EndsDigits ('.' :: rest) := by
  rintro c ⟨⟩
  rfl

/-! ## Layouts -/

theorem magnitude?_point (hw : IsWhole whole) (hd : ∀ c ∈ ds, c.isDigit = true) (hne : ds ≠ [])
    (hr : EndsDigits rest) (he : exponent? rest = some e) :
    magnitude? negative (whole ++ '.' :: (ds ++ rest)) =
      some (float (ofDecimal negative (digitsValue (whole ++ ds)) (e - ds.length))) := by
  rw [magnitude?_append hw endsDigits_point, if_neg (by simp), fraction?_point hd hne hr he]

theorem magnitude?_point_end (hw : IsWhole whole) (hd : ∀ c ∈ ds, c.isDigit = true)
    (hne : ds ≠ []) : magnitude? negative (whole ++ '.' :: ds) =
      some (float (ofDecimal negative (digitsValue (whole ++ ds)) (-ds.length))) := by
  have hread : magnitude? negative (whole ++ '.' :: (ds ++ [])) = _ :=
    magnitude?_point hw hd hne nofun rfl
  rwa [List.append_nil, zero_sub] at hread

theorem isWhole_of_head (hdigits : ∀ c ∈ whole, c.isDigit = true) (hne : whole ≠ [])
    (hhead : whole.head? ≠ some '0') : IsWhole whole :=
  ⟨hdigits, hne, fun h => absurd h hhead⟩

theorem isWhole_digit (hc : c.isDigit = true) : IsWhole [c] :=
  ⟨List.forall_mem_singleton.mpr hc, List.cons_ne_nil _ _, fun _ => rfl⟩

theorem ofDecimal_zeros (negative : Bool) (n k : Nat) :
    ofDecimal negative (10 ^ (k + 1) * n) (-1) = ofDecimal negative n k := by
  rw [ofDecimal_eq_nearest, ofDecimal_eq_nearest]
  congr 1
  push_cast
  rw [mul_comm ((10 : ℚ) ^ (k + 1)), mul_assoc, ← zpow_natCast, ← zpow_add₀ (by norm_num)]
  simp

/-- Digits with a point after the first, if there are more. -/
def pointed : List Char → List Char
  | d :: rest@(_ :: _) => d :: '.' :: rest
  | short => short

section Layout

variable (hd : ∀ c ∈ ds, c.isDigit = true) (hne : ds ≠ [])

include hd hne

theorem magnitude?_scientific (e : Int) :
    magnitude? negative (pointed ds ++ exponentText e) =
      some (float (ofDecimal negative (digitsValue ds) (e + 1 - ds.length))) := by
  cases ds with
  | nil => exact absurd rfl hne
  | cons first more =>
    obtain ⟨hfirst, hmore⟩ := List.forall_mem_cons.mp hd
    cases more with
    | nil =>
      change magnitude? negative ([first] ++ exponentText e) = _
      rw [magnitude?_append (isWhole_digit hfirst) (endsDigits_exponentText e),
        if_neg (by simp [exponentText]), fraction?_exponent]
      simp
    | cons second more =>
      have hread : magnitude? negative _ = _ := magnitude?_point (isWhole_digit hfirst) hmore
        (List.cons_ne_nil _ _) (endsDigits_exponentText e) (exponent?_exponentText e)
      have hscale : e - ((second :: more).length : Int) =
          e + 1 - (first :: second :: more).length := by
        simp only [List.length_cons]
        push_cast
        ring
      rw [hscale] at hread
      exact hread

theorem magnitude?_small (k : Nat) : magnitude? negative
    ('0' :: '.' :: (List.replicate k '0' ++ ds)) =
      some (float (ofDecimal negative (digitsValue ds) (-(k + ds.length : Nat)))) := by
  have hzeros : ∀ c ∈ List.replicate k '0' ++ ds, c.isDigit = true := by
    intro c hc
    rcases List.mem_append.mp hc with hc | hc
    · rw [List.eq_of_mem_replicate hc]; rfl
    · exact hd c hc
  have hread : magnitude? negative _ = _ := magnitude?_point_end (isWhole_digit (c := '0') rfl)
    hzeros (List.append_ne_nil_of_right_ne_nil _ hne)
  have hvalue : digitsValue (['0'] ++ (List.replicate k '0' ++ ds)) = digitsValue ds := by
    rw [← List.append_assoc, digitsValue_append, digitsValue_append, digitsValue_replicate,
      digitsValue_zero]
    simp
  rw [hvalue, List.length_append, List.length_replicate] at hread
  exact hread

variable (hhead : ds.head? ≠ some '0')

include hhead

theorem magnitude?_large (k : Nat) : magnitude? negative
    (ds ++ List.replicate k '0' ++ ['.', '0']) =
      some (float (ofDecimal negative (digitsValue ds) k)) := by
  have hwhole : IsWhole (ds ++ List.replicate k '0') := by
    refine isWhole_of_head (fun c hc => ?_) (List.append_ne_nil_of_left_ne_nil hne _) ?_
    · rcases List.mem_append.mp hc with hc | hc
      · exact hd c hc
      · rw [List.eq_of_mem_replicate hc]; rfl
    · rwa [List.head?_append_of_ne_nil _ hne]
  have hzero : ∀ c ∈ ['0'], c.isDigit = true := List.forall_mem_singleton.mpr rfl
  have hread : magnitude? negative _ = _ :=
    magnitude?_point_end hwhole hzero (List.cons_ne_nil _ _)
  have hvalue : digitsValue (ds ++ List.replicate k '0' ++ ['0']) =
      10 ^ (k + 1) * digitsValue ds := by
    rw [digitsValue_append, digitsValue_append, digitsValue_replicate, digitsValue_zero,
      List.length_replicate, pow_succ, add_zero, add_zero, ← mul_assoc, mul_comm (10 ^ k)]
    rfl
  rw [hvalue] at hread
  rw [← ofDecimal_zeros]
  exact hread

theorem magnitude?_between {k : Nat} (hk : 0 < k) (hlt : k < ds.length) : magnitude? negative
    (ds.take k ++ '.' :: ds.drop k) =
      some (float (ofDecimal negative (digitsValue ds) (k - ds.length))) := by
  have hwhole : IsWhole (ds.take k) := by
    refine isWhole_of_head (fun c hc => hd c (List.mem_of_mem_take hc)) ?_ ?_
    · simp [hne, hk.ne']
    · rwa [List.head?_take, if_neg hk.ne']
  have hrest : ∀ c ∈ ds.drop k, c.isDigit = true := fun c hc => hd c (List.mem_of_mem_drop hc)
  have hread : magnitude? negative _ = _ :=
    magnitude?_point_end hwhole hrest (by simpa using hlt)
  have hscale : -((ds.drop k).length : Int) = k - ds.length := by
    rw [List.length_drop]
    omega
  rw [List.take_append_drop, hscale] at hread
  exact hread

end Layout

/-- **The layout of a decimal is read as its digits at its point.** -/
theorem magnitude?_layout (hpos : 0 < d.digits) : magnitude? negative d.layout =
    some (float (ofDecimal negative d.digits (d.point - decimalLength d.digits))) := by
  have hvalue := digitsValue_toDigits d.digits
  have hd : ∀ c ∈ Nat.toDigits 10 d.digits, c.isDigit = true := isDigit_toDigits
  have hhead := head_toDigits hpos
  have hne : Nat.toDigits 10 d.digits ≠ [] := Nat.toDigits_ne_nil
  unfold Decimal.layout decimalLength
  generalize Nat.toDigits 10 d.digits = ds at *
  rw [← hvalue]
  dsimp only
  split
  · change magnitude? negative (pointed ds ++ exponentText (d.point - 1)) = _
    rw [magnitude?_scientific hd hne, sub_add_cancel]
  · split
    · next hsmall =>
      have hscale : (-(d.point.natAbs + ds.length : Nat) : Int) = d.point - ds.length := by omega
      rw [← hscale]
      exact magnitude?_small hd hne _
    · next hpositive =>
      split
      · next hlarge =>
        have hscale : ((d.point.toNat - ds.length : Nat) : Int) = d.point - ds.length := by omega
        rw [← hscale]
        exact magnitude?_large hd hne hhead _
      · next hbetween =>
        have hscale : (d.point.toNat : Int) = d.point := by omega
        have hread : magnitude? negative _ = _ := magnitude?_between hd hne hhead
          (show 0 < d.point.toNat by omega) (not_le.mp hbetween)
        rwa [hscale] at hread

/-! ## Texts of numbers -/

theorem head_of_magnitude? {x : Json} (h : magnitude? negative cs = some x) :
    ∃ c rest, cs = c :: rest ∧ c.isDigit = true := by
  unfold magnitude? at h
  cases cs with
  | nil => cases h
  | cons c rest =>
    refine ⟨c, rest, rfl, ?_⟩
    by_contra hother
    simp [spanDigits, List.span_eq_takeWhile_dropWhile, hother] at h

theorem plain?_of_magnitude? {x : Json} (h : magnitude? negative cs = some x) :
    plain? (signed negative cs) = some x := by
  obtain ⟨c, rest, rfl, hc⟩ := head_of_magnitude? h
  rw [plain?_signed hc, h]

theorem isWordChar_of_isDigit (hc : c.isDigit = true) : isWordChar c = true := by
  simp [isWordChar, Char.isAlphanum, hc]

theorem isWordChar_signed (h : ∀ c ∈ cs, isWordChar c = true) :
    ∀ c ∈ signed negative cs, isWordChar c = true := by
  cases negative with
  | false => exact h
  | true => exact List.forall_mem_cons.mpr ⟨rfl, h⟩

theorem isWordChar_exponentText (e : Int) : ∀ c ∈ exponentText e, isWordChar c = true := by
  have hdigits := (exponentDigits_spec e.natAbs).1
  refine List.forall_mem_cons.mpr ⟨rfl, List.forall_mem_cons.mpr ⟨?_, fun c hc =>
    isWordChar_of_isDigit (hdigits c hc)⟩⟩
  split <;> rfl

theorem isWordChar_pointed (h : ∀ c ∈ ds, isWordChar c = true) :
    ∀ c ∈ pointed ds, isWordChar c = true := by
  unfold pointed
  split
  · obtain ⟨hfirst, hmore⟩ := List.forall_mem_cons.mp h
    exact List.forall_mem_cons.mpr ⟨hfirst, List.forall_mem_cons.mpr ⟨rfl, hmore⟩⟩
  · exact h

theorem isWordChar_layout (d : Decimal) : ∀ c ∈ d.layout, isWordChar c = true := by
  have hds : ∀ c ∈ Nat.toDigits 10 d.digits, isWordChar c = true := fun c hc =>
    isWordChar_of_isDigit (isDigit_toDigits c hc)
  unfold Decimal.layout
  generalize Nat.toDigits 10 d.digits = ds at *
  have hzeros : ∀ k, ∀ c ∈ List.replicate k '0', isWordChar c = true := fun k c hc => by
    rw [List.eq_of_mem_replicate hc]; rfl
  have hpoint : isWordChar '.' = true := rfl
  have hzero : isWordChar '0' = true := rfl
  dsimp only
  split
  · change ∀ c ∈ pointed ds ++ exponentText (d.point - 1), isWordChar c = true
    exact List.forall_mem_append.mpr ⟨isWordChar_pointed hds, isWordChar_exponentText _⟩
  · split
    · exact List.forall_mem_append.mpr ⟨List.forall_mem_cons.mpr ⟨hzero,
        List.forall_mem_cons.mpr ⟨hpoint, hzeros _⟩⟩, hds⟩
    · split
      · exact List.forall_mem_append.mpr ⟨List.forall_mem_append.mpr ⟨hds, hzeros _⟩,
          List.forall_mem_cons.mpr ⟨hpoint, List.forall_mem_singleton.mpr hzero⟩⟩
      · exact List.forall_mem_append.mpr ⟨fun c hc => hds c (List.mem_of_mem_take hc),
          List.forall_mem_cons.mpr ⟨hpoint, fun c hc => hds c (List.mem_of_mem_drop hc)⟩⟩

/-- **Integers are read back.** -/
theorem isWordOf_int (n : Int) : IsWordOf (intText n) (int n) := by
  have htext : intText n = signed (n < 0) (Nat.toDigits 10 n.natAbs) := by
    unfold intText signed
    split <;> simp [*]
  have hread : magnitude? (n < 0) (Nat.toDigits 10 n.natAbs) = some (int n) := by
    have happend : magnitude? (n < 0) (Nat.toDigits 10 n.natAbs ++ []) = _ :=
      magnitude?_append (isWhole_toDigits n.natAbs) nofun
    rw [List.append_nil, digitsValue_toDigits] at happend
    have hvalue : (if decide (n < 0) = true then -(n.natAbs : Int) else n.natAbs) = n := by
      simp only [decide_eq_true_eq]
      omega
    rw [happend, List.isEmpty_nil, if_pos rfl, hvalue]
  rw [htext]
  exact ⟨isWordChar_signed fun c hc => isWordChar_of_isDigit (isDigit_toDigits c hc),
    plain?_of_magnitude? hread⟩

/-- **Doubles are read back.** -/
theorem isWordOf_float (h : IsDouble m e) (negative : Bool) :
    IsWordOf (floatChars (.finite negative m e)) (float (.finite negative m e)) := by
  have htext : floatChars (.finite negative m e) =
      signed negative (if m = 0 then ['0', '.', '0'] else (Decimal.shortest m e).layout) := rfl
  rw [htext]
  split
  · next hzero =>
    have hleast : e = minExponent := by
      refine h.full.resolve_left ?_
      rw [hzero]
      decide
    refine ⟨isWordChar_signed (List.all_eq_true.mp (by decide)), plain?_of_magnitude? ?_⟩
    rw [hzero, hleast]
    cases negative <;> rfl
  · next hm =>
    obtain ⟨hdigits, hreads⟩ := Decimal.shortest_reads h (Nat.pos_of_ne_zero hm) negative
    refine ⟨isWordChar_signed (isWordChar_layout _), plain?_of_magnitude? ?_⟩
    rw [magnitude?_layout hdigits, hreads]

end Scaffold.Json
