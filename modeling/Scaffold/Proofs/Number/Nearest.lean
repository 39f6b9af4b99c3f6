import Mathlib.Algebra.Order.Field.Power
import Mathlib.Algebra.Order.Floor.Semifield
import Mathlib.Data.Int.Log
import Mathlib.Data.Rat.Floor
import Mathlib.Tactic.FieldSimp
import Mathlib.Tactic.GCongr
import Mathlib.Tactic.Linarith
import Mathlib.Tactic.NormNum
import Mathlib.Tactic.Positivity
import Mathlib.Tactic.Ring
import Scaffold.Number.Binary64

/-!
# The nearest double

`Binary64.nearest` rounds a rational. `ofRatio` and `ofDecimal` compute it, the one for a quotient
and the other for a decimal, however they are written (`ofRatio_eq_nearest`,
`ofDecimal_eq_nearest`). What is rounded is a double or too large for one (`nearest_isFinite`), and
what is closer to a double than one part in `2 ^ 54` is rounded to that double (`nearest_of_close`).
-/

namespace Scaffold.Number.Binary64

/-- Mantissa and exponent of a double. Only at the least exponent the mantissa may be less than
full. -/
structure IsDouble (mantissa : Nat) (exponent : Int) : Prop where
  below : mantissa < mantissaLimit
  least : minExponent ≤ exponent
  most : exponent ≤ maxExponent
  full : mantissaLimit ≤ 2 * mantissa ∨ exponent = minExponent

instance (m : Nat) (e : Int) : Decidable (IsDouble m e) :=
  decidable_of_iff (m < mantissaLimit ∧ minExponent ≤ e ∧ e ≤ maxExponent ∧
      (mantissaLimit ≤ 2 * m ∨ e = minExponent))
    ⟨fun ⟨h1, h2, h3, h4⟩ => ⟨h1, h2, h3, h4⟩, fun h => ⟨h.below, h.least, h.most, h.full⟩⟩

def IsFinite : Binary64 → Prop
  | .finite _ m e => IsDouble m e
  | _ => False

/-- The integer nearest to a rational that is not negative; a half goes to the even neighbour. -/
def nearestEven (q : ℚ) : ℕ :=
  if 1 < 2 * (q - ⌊q⌋₊) ∨ (2 * (q - ⌊q⌋₊) = 1 ∧ ⌊q⌋₊ % 2 = 1) then ⌊q⌋₊ + 1 else ⌊q⌋₊

/-- The binary exponent at which a positive rational has a full mantissa, or the least one. -/
def exponentOf (q : ℚ) : ℤ := max minExponent (Int.log 2 q - 52)

/-- The double nearest to a rational of the given sign. -/
def nearest (negative : Bool) (q : ℚ) : Binary64 :=
  if q = 0 then .finite negative 0 minExponent
  else
    let e := exponentOf q
    let m := nearestEven (q / 2 ^ e)
    let (m, e) := if m = mantissaLimit then (m / 2, e + 1) else (m, e)
    if maxExponent < e then .infinite negative else .finite negative m e

variable {num den m digits : Nat} {q : ℚ} {e scale : ℤ} {negative : Bool}

theorem log_eq {b : ℕ} (hb : 1 < b) {z : ℤ} (hlow : (b : ℚ) ^ z ≤ q) (hhigh : q < b ^ (z + 1)) :
    Int.log b q = z := by
  have hq : 0 < q := lt_of_lt_of_le (zpow_pos (by exact_mod_cast (by omega : 0 < b)) z) hlow
  have hle := (Int.zpow_le_iff_le_log hb hq).mp hlow
  have hlt := (Int.lt_zpow_iff_log_lt hb hq).mp hhigh
  omega

theorem log_bounds {b : ℕ} (hb : 1 < b) (hq : 0 < q) :
    (b : ℚ) ^ Int.log b q ≤ q ∧ q < b ^ (Int.log b q + 1) :=
  ⟨Int.zpow_log_le_self hb hq, Int.lt_zpow_succ_log_self hb q⟩

theorem two_zpow_pos (e : ℤ) : (0 : ℚ) < 2 ^ e := zpow_pos (by norm_num) e

theorem ten_zpow_pos (e : ℤ) : (0 : ℚ) < 10 ^ e := zpow_pos (by norm_num) e

/-! ## Quotients -/

theorem scaleDown_pos (hd : 0 < den) (e : ℤ) : 0 < (scaleDown num den e).2 := by
  cases e with
  | ofNat k => exact Nat.mul_pos hd (Nat.pow_pos (by decide))
  | negSucc k => exact hd

theorem scaleDown_eq (num den : Nat) (e : ℤ) :
    ((scaleDown num den e).1 : ℚ) / (scaleDown num den e).2 = num / den / 2 ^ e := by
  cases e with
  | ofNat k => simp [scaleDown, div_div]
  | negSucc k => simp [scaleDown, zpow_negSucc, div_inv_eq_mul, mul_div_right_comm]

/-- Binary logarithms of numerator and denominator tell that of the quotient but for one. -/
theorem log2_quotient (hn : 0 < num) (hd : 0 < den) :
    (2 : ℚ) ^ ((num.log2 : ℤ) - den.log2 - 1) < num / den ∧
      (num : ℚ) / den < 2 ^ ((num.log2 : ℤ) - den.log2 + 1) := by
  have hdq : (0 : ℚ) < den := by exact_mod_cast hd
  have hnlow : (2 : ℚ) ^ (num.log2 : ℤ) ≤ num := by
    rw [zpow_natCast]
    exact_mod_cast Nat.log2_self_le hn.ne'
  have hnhigh : (num : ℚ) < 2 ^ ((num.log2 : ℤ) + 1) := by exact_mod_cast Nat.lt_log2_self
  have hdlow : (2 : ℚ) ^ (den.log2 : ℤ) ≤ den := by
    rw [zpow_natCast]
    exact_mod_cast Nat.log2_self_le hd.ne'
  have hdhigh : (den : ℚ) < 2 ^ ((den.log2 : ℤ) + 1) := by exact_mod_cast Nat.lt_log2_self
  generalize (num.log2 : ℤ) = a at *
  generalize (den.log2 : ℤ) = b at *
  constructor
  · rw [lt_div_iff₀ hdq]
    calc (2 : ℚ) ^ (a - b - 1) * den < 2 ^ (a - b - 1) * 2 ^ (b + 1) := by gcongr
      _ = 2 ^ a := by rw [← zpow_add₀ (by norm_num)]; congr 1; ring
      _ ≤ num := hnlow
  · rw [div_lt_iff₀ hdq]
    calc (num : ℚ) < 2 ^ (a + 1) := hnhigh
      _ = 2 ^ (a - b + 1) * 2 ^ b := by rw [← zpow_add₀ (by norm_num)]; congr 1; ring
      _ ≤ 2 ^ (a - b + 1) * den := by gcongr

theorem one_le_quotient_iff (hd : 0 < den) : (1 : ℚ) ≤ num / den ↔ den ≤ num := by
  have hdq : (0 : ℚ) < den := by exact_mod_cast hd
  rw [le_div_iff₀ hdq, one_mul, Nat.cast_le]

theorem exponentFor_eq (hn : 0 < num) (hd : 0 < den) :
    exponentFor num den = exponentOf (num / den) := by
  obtain ⟨hlow, hhigh⟩ := log2_quotient hn hd
  have hscaled := scaleDown_eq num den ((num.log2 : ℤ) - den.log2)
  have hpos : 0 < (scaleDown num den ((num.log2 : ℤ) - den.log2)).2 := scaleDown_pos hd _
  unfold exponentFor exponentOf
  generalize (num.log2 : ℤ) - den.log2 = guess at *
  simp only
  -- the guess is the logarithm or one more
  have hcompare : (scaleDown num den guess).2 ≤ (scaleDown num den guess).1 ↔
      (2 : ℚ) ^ guess ≤ num / den := by
    rw [← one_le_quotient_iff hpos, hscaled, le_div_iff₀ (two_zpow_pos guess), one_mul]
  by_cases hle : (2 : ℚ) ^ guess ≤ num / den
  · rw [if_pos (hcompare.mpr hle), log_eq (b := 2) (by decide) hle hhigh]
  · rw [if_neg (mt hcompare.mp hle),
      log_eq (b := 2) (z := guess - 1) (by decide) hlow.le (by simpa using hle)]
    congr 1
    ring

theorem roundHalfEven_eq (hd : 0 < den) : roundHalfEven num den = nearestEven (num / den) := by
  have hdq : (0 : ℚ) < den := by exact_mod_cast hd
  have hfloor : ⌊(num : ℚ) / den⌋₊ = num / den := Nat.floor_div_eq_div num den
  have hrest : 2 * ((num : ℚ) / den - (num / den : ℕ)) = (2 * (num % den) : ℕ) / den := by
    have hsplit : (num : ℚ) = den * (num / den : ℕ) + (num % den : ℕ) := by
      exact_mod_cast (Nat.div_add_mod num den).symm
    rw [eq_div_iff hdq.ne', mul_assoc, sub_mul, div_mul_cancel₀ _ hdq.ne']
    push_cast
    linarith
  have hmore : (1 : ℚ) < (2 * (num % den) : ℕ) / den ↔ den < 2 * (num % den) := by
    rw [lt_div_iff₀ hdq, one_mul, Nat.cast_lt]
  have htie : ((2 * (num % den) : ℕ) : ℚ) / den = 1 ↔ 2 * (num % den) = den := by
    rw [div_eq_one_iff_eq hdq.ne', Nat.cast_inj]
  unfold roundHalfEven nearestEven
  simp only [hfloor, hrest, hmore, htie]

/-- **Quotients are rounded to the nearest double.** -/
theorem ofRatio_eq_nearest (hd : 0 < den) :
    ofRatio negative num den = nearest negative (num / den) := by
  have hdq : (den : ℚ) ≠ 0 := by exact_mod_cast hd.ne'
  unfold ofRatio nearest
  by_cases hn : num = 0
  · rw [if_pos hn, if_pos (by simp [hn])]
  · have hnq : (num : ℚ) / den ≠ 0 := div_ne_zero (by exact_mod_cast hn) hdq
    rw [if_neg hn, if_neg hnq, exponentFor_eq (Nat.pos_of_ne_zero hn) hd]
    simp only [roundHalfEven_eq (scaleDown_pos hd _), scaleDown_eq]

/-! ## What is close to a double -/

theorem nearestEven_of_close (hq : 0 ≤ q) (h : |q - m| < 1 / 2) : nearestEven q = m := by
  obtain ⟨hlow, hhigh⟩ := abs_lt.mp h
  unfold nearestEven
  by_cases hle : (m : ℚ) ≤ q
  · have hfloor : ⌊q⌋₊ = m := (Nat.floor_eq_iff hq).mpr ⟨hle, by linarith⟩
    rw [hfloor, if_neg (by rintro (hmore | ⟨htie, -⟩) <;> linarith)]
  · cases m with
    | zero => exact absurd hq (by simpa using hle)
    | succ k =>
      push_cast at hlow hhigh hle
      have hfloor : ⌊q⌋₊ = k := (Nat.floor_eq_iff hq).mpr ⟨by linarith, by linarith⟩
      rw [hfloor, if_pos (.inl (by linarith))]

theorem nearestEven_near (hq : 0 ≤ q) :
    (nearestEven q = ⌊q⌋₊ ∨ nearestEven q = ⌊q⌋₊ + 1) ∧ |nearestEven q - q| ≤ 1 / 2 := by
  have hlow := Nat.floor_le hq
  have hhigh := Nat.lt_floor_add_one q
  unfold nearestEven
  split
  · next hup =>
    refine ⟨.inr rfl, abs_le.mpr ?_⟩
    push_cast
    rcases hup with hmore | ⟨htie, -⟩ <;> constructor <;> linarith
  · next hdown =>
    have hless : 2 * (q - ⌊q⌋₊) ≤ 1 := not_lt.mp fun hmore => hdown (.inl hmore)
    exact ⟨.inl rfl, abs_le.mpr ⟨by linarith, by linarith⟩⟩

theorem nearestEven_div (hq : 0 ≤ q) (h : |q - m * 2 ^ e| < 2 ^ e / 2) :
    nearestEven (q / 2 ^ e) = m := by
  have hu := two_zpow_pos e
  have hdist : |q / 2 ^ e - m| * 2 ^ e = |q - m * 2 ^ e| := by
    rw [← abs_of_pos hu, ← abs_mul, abs_of_pos hu, sub_mul, div_mul_cancel₀ _ hu.ne']
  refine nearestEven_of_close (div_nonneg hq hu.le) ?_
  rw [← mul_lt_mul_iff_of_pos_right hu, hdist]
  linarith

/-- Closer to a double than one part in `2 ^ 54` of it. -/
def IsClose (q : ℚ) (m : Nat) (e : ℤ) : Prop := |q - m * 2 ^ e| * 2 ^ 54 < m * 2 ^ e

theorem mantissaLimit_eq : (mantissaLimit : ℚ) = 2 ^ 53 := by norm_num [mantissaLimit]

section Close

variable (h : IsDouble m e) (hq : IsClose q m e)

include hq

theorem IsClose.pos : 0 < q := by
  have hx : (0 : ℚ) ≤ m * 2 ^ e := mul_nonneg (Nat.cast_nonneg m) (two_zpow_pos e).le
  have hbound := abs_le.mp (le_refl |q - m * 2 ^ e|)
  unfold IsClose at hq
  linarith

include h

theorem IsClose.half : |q - m * 2 ^ e| < 2 ^ e / 2 := by
  have hm : (m : ℚ) < 2 ^ 53 := by rw [← mantissaLimit_eq]; exact_mod_cast h.below
  have hx : (m : ℚ) * 2 ^ e < 2 ^ 53 * 2 ^ e := mul_lt_mul_of_pos_right hm (two_zpow_pos e)
  unfold IsClose at hq
  linarith

/-- What is close to a double has its exponent, but for powers of two, to which one may come from
below. -/
theorem IsClose.exponent :
    exponentOf q = e ∨ (exponentOf q = e - 1 ∧ 2 * m = mantissaLimit) := by
  have hu := two_zpow_pos e
  have hhalf := abs_lt.mp (hq.half h)
  have hpow : ∀ k : ℤ, (2 : ℚ) ^ (e + k) = 2 ^ e * 2 ^ k := fun k => zpow_add₀ (by norm_num) e k
  have hbelow : (m : ℚ) + 1 ≤ 2 ^ 53 := by
    rw [← mantissaLimit_eq]
    exact_mod_cast h.below
  have hhigh : q < 2 ^ (e + 52 + 1) := by
    rw [add_assoc, hpow]
    norm_num at hbelow ⊢
    nlinarith
  by_cases hlow : (2 : ℚ) ^ (e + 52) ≤ q
  · left
    have hlog := log_eq (b := 2) (by decide) hlow hhigh
    have hleast := h.least
    rw [exponentOf, hlog]
    omega
  have hlog := (Int.lt_zpow_iff_log_lt (b := 2) (by decide) hq.pos).mp hhigh
  by_cases hleast : e = minExponent
  · left
    rw [exponentOf]
    omega
  · right
    have hfull := h.full.resolve_right hleast
    have hm : (m : ℚ) < 2 ^ 52 + 1 := by
      have hbelow : q < 2 ^ e * 2 ^ (52 : ℤ) := by rw [← hpow]; exact not_le.mp hlow
      norm_num at hbelow
      nlinarith
    have hm' : 2 * m = mantissaLimit := by
      have : m < 2 ^ 52 + 1 := by exact_mod_cast hm
      unfold mantissaLimit at hfull ⊢
      omega
    have hlow' : (2 : ℚ) ^ (e + 51) ≤ q := by
      have hfull' : (2 : ℚ) * m = 2 ^ 53 := by rw [← mantissaLimit_eq]; exact_mod_cast hm'
      rw [hpow]
      norm_num at hfull' ⊢
      nlinarith
    have hlog' := (Int.zpow_le_iff_le_log (b := 2) (by decide) hq.pos).mp hlow'
    have hlog'' := (Int.lt_zpow_iff_log_lt (b := 2) (by decide) hq.pos).mp (not_le.mp hlow)
    have hmin := h.least
    refine ⟨?_, hm'⟩
    rw [exponentOf]
    omega

/-- **What is close to a double is rounded to it.** -/
theorem nearest_of_close : nearest negative q = .finite negative m e := by
  have hmost := h.most
  unfold nearest
  rw [if_neg hq.pos.ne']
  rcases hq.exponent h with hexp | ⟨hexp, hm⟩
  · have hnear : nearestEven (q / 2 ^ e) = m := nearestEven_div hq.pos.le (hq.half h)
    simp only [hexp, hnear, if_neg h.below.ne, if_neg (not_lt.mpr hmost)]
  · -- one place further the mantissa has one bit too many
    have hhalf : (2 : ℚ) ^ e = 2 * 2 ^ (e - 1) := by
      rw [mul_comm, ← zpow_add_one₀ (by norm_num), sub_add_cancel]
    have hnear : nearestEven (q / 2 ^ (e - 1)) = mantissaLimit := by
      refine nearestEven_div hq.pos.le ?_
      have hm' : (2 : ℚ) * m = mantissaLimit := by exact_mod_cast hm
      have hx : (m : ℚ) * 2 ^ e = mantissaLimit * 2 ^ (e - 1) := by
        rw [hhalf, ← mul_assoc, mul_comm (m : ℚ), hm']
      have hclose := hq
      unfold IsClose at hclose
      rw [hx, mantissaLimit_eq] at hclose
      rw [mantissaLimit_eq]
      generalize |q - 2 ^ 53 * 2 ^ (e - 1)| = distance at *
      generalize (2 : ℚ) ^ (e - 1) = u at *
      linarith
    have hback : mantissaLimit / 2 = m := by omega
    simp only [hexp, hnear, if_true, hback, sub_add_cancel, if_neg (not_lt.mpr hmost)]

end Close

/-- A mantissa takes no more than its bits, and all of them but at the least exponent. -/
theorem mantissa_bounds (hq : 0 < q) : nearestEven (q / 2 ^ exponentOf q) ≤ mantissaLimit ∧
    (exponentOf q = minExponent ∨
      mantissaLimit ≤ 2 * nearestEven (q / 2 ^ exponentOf q)) := by
  obtain ⟨hlow, hhigh⟩ := log_bounds (b := 2) (by decide) hq
  push_cast at hlow hhigh
  have hu := two_zpow_pos (exponentOf q)
  have hexp : exponentOf q = max minExponent (Int.log 2 q - 52) := rfl
  have hpow : ∀ k : ℤ, (2 : ℚ) ^ (k + exponentOf q) = 2 ^ k * 2 ^ exponentOf q :=
    fun k => zpow_add₀ (by norm_num) k _
  have hnonneg : 0 ≤ q / 2 ^ exponentOf q := div_nonneg hq.le hu.le
  obtain ⟨hnear, -⟩ := nearestEven_near hnonneg
  constructor
  · have hbelow : q / 2 ^ exponentOf q < mantissaLimit := by
      rw [div_lt_iff₀ hu, mantissaLimit_eq]
      calc q < 2 ^ (Int.log 2 q + 1) := hhigh
        _ ≤ 2 ^ (53 + exponentOf q) := zpow_le_zpow_right₀ (by norm_num) (by omega)
        _ = 2 ^ 53 * 2 ^ exponentOf q := hpow 53
    have hfloor := (Nat.floor_lt hnonneg).mpr hbelow
    omega
  · by_cases hleast : exponentOf q = minExponent
    · exact .inl hleast
    · right
      have habove : ((2 ^ 52 : ℕ) : ℚ) ≤ q / 2 ^ exponentOf q := by
        rw [le_div_iff₀ hu]
        calc ((2 ^ 52 : ℕ) : ℚ) * 2 ^ exponentOf q = 2 ^ (52 + exponentOf q) := by
              rw [hpow]; norm_num
          _ = 2 ^ Int.log 2 q := by congr 1; omega
          _ ≤ q := hlow
      have hfloor := Nat.le_floor habove
      unfold mantissaLimit
      omega

theorem nearest_isFinite (negative : Bool) (hq : 0 ≤ q) :
    nearest negative q = .infinite negative ∨ (nearest negative q).IsFinite := by
  unfold nearest
  split
  · exact .inr ⟨by decide, le_rfl, by decide, .inr rfl⟩
  · next hne =>
    obtain ⟨hmost, hfull⟩ := mantissa_bounds (lt_of_le_of_ne hq (Ne.symm hne))
    have hleast : minExponent ≤ exponentOf q := le_max_left _ _
    dsimp only
    generalize nearestEven (q / 2 ^ exponentOf q) = m at *
    split_ifs with hm hover hover
    · exact .inl rfl
    · subst hm
      have hhalf : mantissaLimit / 2 < mantissaLimit ∧ mantissaLimit ≤ 2 * (mantissaLimit / 2) := by
        decide
      exact .inr ⟨hhalf.1, hleast.trans (by omega), not_lt.mp hover, .inl hhalf.2⟩
    · exact .inl rfl
    · exact .inr ⟨by omega, hleast, not_lt.mp hover, hfull.symm⟩

theorem nearest_of_small (hpos : 0 < q) (h : q < 2 ^ (minExponent - 1)) :
    nearest negative q = .finite negative 0 minExponent := by
  have hlog := (Int.lt_zpow_iff_log_lt (b := 2) (by decide) hpos).mp h
  have hexp : exponentOf q = minExponent := by
    rw [exponentOf]
    omega
  have hzero : nearestEven (q / 2 ^ minExponent) = 0 := by
    refine nearestEven_div hpos.le ?_
    rw [Nat.cast_zero, zero_mul, sub_zero, abs_of_pos hpos]
    rwa [zpow_sub_one₀ (by norm_num), ← div_eq_mul_inv] at h
  unfold nearest
  rw [if_neg hpos.ne']
  simp only [hexp, hzero]
  rfl

theorem nearest_of_large (h : (2 : ℚ) ^ (maxExponent + 54) ≤ q) :
    nearest negative q = .infinite negative := by
  have hpos : 0 < q := lt_of_lt_of_le (two_zpow_pos _) h
  have hlog := (Int.zpow_le_iff_le_log (b := 2) (by decide) hpos).mp h
  have hexp : maxExponent < exponentOf q := by
    rw [exponentOf]
    omega
  unfold nearest
  rw [if_neg hpos.ne']
  by_cases hm : nearestEven (q / 2 ^ exponentOf q) = mantissaLimit
  · simp only [hm, if_true, if_pos (show maxExponent < exponentOf q + 1 by omega)]
  · simp only [hm, if_false, if_pos hexp]

theorem ten_zpow_small : (10 : ℚ) ^ (-331 : ℤ) ≤ 2 ^ (minExponent - 1) := by
  have hnat : 2 ^ 1075 ≤ 10 ^ 331 := by decide +kernel
  have hcast : (2 : ℚ) ^ 1075 ≤ 10 ^ 331 := by exact_mod_cast hnat
  rw [show (-331 : ℤ) = -((331 : ℕ) : ℤ) from rfl,
    show minExponent - 1 = -((1075 : ℕ) : ℤ) from rfl, zpow_neg, zpow_neg, zpow_natCast,
    zpow_natCast, inv_le_inv₀ (by positivity) (by positivity)]
  exact hcast

theorem ten_zpow_large : (2 : ℚ) ^ (maxExponent + 54) ≤ 10 ^ (330 : ℤ) := by
  have hnat : 2 ^ 1025 ≤ 10 ^ 330 := by decide +kernel
  have hcast : (2 : ℚ) ^ 1025 ≤ 10 ^ 330 := by exact_mod_cast hnat
  rw [show (330 : ℤ) = ((330 : ℕ) : ℤ) from rfl,
    show maxExponent + 54 = ((1025 : ℕ) : ℤ) from rfl, zpow_natCast, zpow_natCast]
  exact hcast

/-! ## Decimals -/

theorem decimalLength_pos (n : Nat) : 0 < decimalLength n := Nat.length_toDigits_pos

theorem decimalLength_le_iff {n k : Nat} (hk : 0 < k) : decimalLength n ≤ k ↔ n < 10 ^ k :=
  Nat.length_toDigits_le_iff (by decide) hk

theorem decimalLength_bounds {n : Nat} (hn : 0 < n) :
    10 ^ (decimalLength n - 1) ≤ n ∧ n < 10 ^ decimalLength n := by
  refine ⟨?_, (decimalLength_le_iff (decimalLength_pos n)).mp le_rfl⟩
  by_cases hone : decimalLength n = 1
  · rw [hone]
    exact hn
  · have hpos := decimalLength_pos n
    by_contra hlt
    have := (decimalLength_le_iff (k := decimalLength n - 1) (by omega)).mpr (not_le.mp hlt)
    omega

/-- The place of the first digit tells the size of a decimal. -/
theorem place_eq (hd : 0 < digits) (scale : ℤ) :
    (decimalLength digits : ℤ) + scale = Int.log 10 ((digits : ℚ) * 10 ^ scale) + 1 := by
  obtain ⟨hlow, hhigh⟩ := decimalLength_bounds hd
  have hpos := decimalLength_pos digits
  have hlow' : (10 : ℚ) ^ ((decimalLength digits : ℤ) - 1) ≤ digits := by
    rw [← Nat.cast_pred hpos, zpow_natCast]
    exact_mod_cast hlow
  have hhigh' : (digits : ℚ) < 10 ^ (decimalLength digits : ℤ) := by
    rw [zpow_natCast]
    exact_mod_cast hhigh
  have hlog : Int.log 10 ((digits : ℚ) * 10 ^ scale) = (decimalLength digits : ℤ) + scale - 1 := by
    refine log_eq (b := 10) (by decide) ?_ ?_
    · calc (10 : ℚ) ^ ((decimalLength digits : ℤ) + scale - 1)
          = 10 ^ ((decimalLength digits : ℤ) - 1) * 10 ^ scale := by
            rw [← zpow_add₀ (by norm_num)]; congr 1; ring
        _ ≤ digits * 10 ^ scale := by gcongr
    · calc (digits : ℚ) * 10 ^ scale < 10 ^ (decimalLength digits : ℤ) * 10 ^ scale := by gcongr
        _ = 10 ^ ((decimalLength digits : ℤ) + scale - 1 + 1) := by
            rw [← zpow_add₀ (by norm_num), sub_add_cancel]
  rw [hlog]
  ring

/-- **Decimals are rounded to the nearest double**, those far out of range too. -/
theorem ofDecimal_eq_nearest (negative : Bool) (digits : Nat) (scale : ℤ) :
    ofDecimal negative digits scale = nearest negative (digits * 10 ^ scale) := by
  unfold ofDecimal
  by_cases hd : digits = 0
  · rw [if_pos (.inl hd), hd, Nat.cast_zero, zero_mul, nearest, if_pos rfl]
  have hpos : (0 : ℚ) < digits * 10 ^ scale :=
    mul_pos (by exact_mod_cast Nat.pos_of_ne_zero hd) (ten_zpow_pos scale)
  obtain ⟨hlow, hhigh⟩ := log_bounds (b := 10) (by decide) hpos
  push_cast at hlow hhigh
  have hplace := place_eq (Nat.pos_of_ne_zero hd) scale
  simp only [hd, false_or]
  split
  · next hsmall =>
    refine (nearest_of_small hpos (lt_of_lt_of_le hhigh ?_)).symm
    exact (zpow_le_zpow_right₀ (by norm_num) (by omega)).trans ten_zpow_small
  · split
    · next hlarge =>
      refine (nearest_of_large (ten_zpow_large.trans (le_trans ?_ hlow))).symm
      exact zpow_le_zpow_right₀ (by norm_num) (by omega)
    · cases scale with
      | ofNat k =>
        change ofRatio negative (digits * 10 ^ k) 1 = _
        rw [ofRatio_eq_nearest (by decide)]
        simp
      | negSucc k =>
        change ofRatio negative digits (10 ^ (k + 1)) = _
        rw [ofRatio_eq_nearest (Nat.pow_pos (by decide))]
        simp [zpow_negSucc, div_eq_mul_inv]

theorem ofDecimal_isFinite (negative : Bool) (digits : Nat) (scale : ℤ) :
    ofDecimal negative digits scale = .infinite negative ∨
      (ofDecimal negative digits scale).IsFinite := by
  rw [ofDecimal_eq_nearest]
  exact nearest_isFinite negative (mul_nonneg (Nat.cast_nonneg _) (ten_zpow_pos scale).le)

end Scaffold.Number.Binary64
