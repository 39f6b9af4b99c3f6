import Scaffold.Number.Shortest
import Scaffold.Proofs.Number.Nearest

/-!
# Shortest decimals are read back

`Decimal.search` looks for digits that read back as a double, and with seventeen of them it finds
some: the nearest decimal with so many digits is always close (`onGrid?_seventeen`). So the shortest
digits of a double are read back as that double (`shortest_reads`).
-/

namespace Scaffold.Number

open Binary64

namespace Binary64

variable {m : Nat} {e : ℤ} {q : ℚ}

theorem ratio_pos (m : Nat) (e : ℤ) : 0 < (ratio m e).2 := by
  cases e with
  | ofNat k => exact Nat.one_pos
  | negSucc k => exact Nat.pow_pos (by decide)

theorem ratio_eq (m : Nat) (e : ℤ) : ((ratio m e).1 : ℚ) / (ratio m e).2 = m * 2 ^ e := by
  cases e with
  | ofNat k => simp [ratio]
  | negSucc k => simp [ratio, zpow_negSucc, div_eq_mul_inv]

theorem nearest_sign (h : nearest false q = .finite false m e) (negative : Bool) :
    nearest negative q = .finite negative m e := by
  unfold nearest at h ⊢
  dsimp only at h ⊢
  split_ifs at h ⊢ <;> cases h <;> rfl

end Binary64

namespace Decimal

variable {num den count tries k m : Nat} {point e : ℤ} {q : ℚ} {x : Binary64}

theorem decimalLength_eq (hk : 0 < k) : (decimalLength k : ℤ) = Int.log 10 (k : ℚ) + 1 := by
  simpa using place_eq hk 0

theorem decimalLength_div (hn : 0 < num) (hle : num ≤ den) :
    Int.log 10 ((den : ℚ) / num) = decimalLength (den / num) - 1 := by
  rw [decimalLength_eq (Nat.div_pos hle hn), Int.log_natCast,
    Int.log_of_one_le_right 10 ((one_le_quotient_iff hn).mpr hle), Nat.floor_div_eq_div]
  ring

theorem pointFor_eq (hn : 0 < num) (hd : 0 < den) :
    pointFor num den = Int.log 10 ((num : ℚ) / den) + 1 := by
  have hnq : (0 : ℚ) < num := by exact_mod_cast hn
  have hdq : (0 : ℚ) < den := by exact_mod_cast hd
  unfold pointFor
  split
  · next hle =>
    rw [decimalLength_div hd hle]
    ring
  · next hlt =>
    have hpos : 0 < (den : ℚ) / num := div_pos hdq hnq
    have hlog := decimalLength_div hn (not_le.mp hlt).le
    have hzeros := decimalLength_pos (den / num)
    -- what is missing is whether the denominator is just so many zeros longer than the numerator
    have hexact : den ≤ num * Nat.pow 10 (decimalLength (den / num) - 1) ↔
        Int.clog 10 ((den : ℚ) / num) ≤ Int.log 10 ((den : ℚ) / num) := by
      rw [← Int.le_zpow_iff_clog_le (by decide) hpos, hlog, div_le_iff₀ hnq, ← Nat.cast_pred hzeros,
        zpow_natCast, mul_comm]
      exact_mod_cast Iff.rfl
    have hover : Int.clog 10 ((den : ℚ) / num) ≤ Int.log 10 ((den : ℚ) / num) + 1 :=
      (Int.le_zpow_iff_clog_le (by decide) hpos).mp (log_bounds (by decide) hpos).2.le
    have hunder : Int.log 10 ((den : ℚ) / num) ≤ Int.clog 10 ((den : ℚ) / num) :=
      (zpow_le_zpow_iff_right₀ (by norm_num)).mp ((log_bounds (by decide) hpos).1.trans
        (Int.self_le_zpow_clog (by decide) _))
    have hinv : Int.log 10 ((num : ℚ) / den) = -Int.clog 10 ((den : ℚ) / num) := by
      rw [← inv_div, Int.log_inv]
    dsimp only
    rw [hinv]
    split <;> omega

/-! ## The grid -/

theorem gridRatio_eq (num den : Nat) (point : ℤ) (count : Nat) :
    ((gridRatio num den point count).1 : ℚ) / (gridRatio num den point count).2 =
      num / den * 10 ^ ((count : ℤ) - point) := by
  unfold gridRatio
  cases (count : ℤ) - point with
  | ofNat k => simp [mul_div_right_comm]
  | negSucc k => simp [zpow_negSucc, div_eq_mul_inv, mul_assoc, mul_comm]

def gridFloor (num den : Nat) (point : ℤ) (count : Nat) : Nat :=
  (gridRatio num den point count).1 / (gridRatio num den point count).2

theorem gridFloor_eq (num den : Nat) (point : ℤ) (count : Nat) :
    gridFloor num den point count = ⌊(num : ℚ) / den * 10 ^ ((count : ℤ) - point)⌋₊ := by
  rw [← gridRatio_eq, Nat.floor_div_eq_div]
  rfl

def Reads (x : Binary64) (point : ℤ) (count k : Nat) : Prop :=
  ofDecimal false k (point - count) = x

/-- What is found on a grid lies next to the quotient and reads back. -/
theorem onGrid?_some (h : onGrid? x num den point count = some k) :
    (k = gridFloor num den point count ∨ k = gridFloor num den point count + 1) ∧
      Reads x point count k := by
  unfold onGrid? at h
  dsimp only at h
  split at h
  · next hlow hhigh =>
    rw [beq_iff_eq] at hlow hhigh
    split_ifs at h <;> cases h
    · exact ⟨.inl rfl, hlow⟩
    · exact ⟨.inr rfl, hhigh⟩
  · next hlow _ => cases h; exact ⟨.inl rfl, beq_iff_eq.mp hlow⟩
  · next _ hhigh => cases h; exact ⟨.inr rfl, beq_iff_eq.mp hhigh⟩
  · cases h

theorem onGrid?_isSome (hk : k = gridFloor num den point count ∨
    k = gridFloor num den point count + 1) (h : Reads x point count k) :
    (onGrid? x num den point count).isSome := by
  unfold onGrid?
  dsimp only
  split
  · rfl
  · rfl
  · rfl
  · next hlow hhigh =>
    rw [beq_eq_false_iff_ne] at hlow hhigh
    rcases hk with rfl | rfl
    · exact absurd h hlow
    · exact absurd h hhigh

section Search

variable (hn : 0 < num) (hd : 0 < den)

include hn hd

theorem grid_bounds (count : Nat) :
    (10 : ℚ) ^ ((count : ℤ) - 1) ≤ num / den * 10 ^ ((count : ℤ) - pointFor num den) ∧
      (num : ℚ) / den * 10 ^ ((count : ℤ) - pointFor num den) < 10 ^ (count : ℤ) := by
  have hpos : 0 < (num : ℚ) / den := div_pos (by exact_mod_cast hn) (by exact_mod_cast hd)
  obtain ⟨hlow, hhigh⟩ := log_bounds (b := 10) (by decide) hpos
  push_cast at hlow hhigh
  rw [pointFor_eq hn hd]
  generalize Int.log 10 ((num : ℚ) / den) = log at *
  have hscale : ∀ a : ℤ, (10 : ℚ) ^ (log + a) * 10 ^ ((count : ℤ) - (log + 1)) =
      10 ^ ((count : ℤ) - 1 + a) := by
    intro a
    rw [← zpow_add₀ (by norm_num)]
    congr 1
    ring
  have hu := ten_zpow_pos ((count : ℤ) - (log + 1))
  constructor
  · have := hscale 0
    rw [add_zero, add_zero] at this
    rw [← this]
    gcongr
  · have := hscale 1
    rw [sub_add_cancel] at this
    rw [← this]
    gcongr

theorem gridFloor_bounds (hc : 0 < count) :
    10 ^ (count - 1) ≤ gridFloor num den (pointFor num den) count ∧
      gridFloor num den (pointFor num den) count < 10 ^ count := by
  obtain ⟨hlow, hhigh⟩ := grid_bounds hn hd count
  rw [← Nat.cast_pred hc, zpow_natCast] at hlow
  rw [zpow_natCast] at hhigh
  rw [gridFloor_eq]
  refine ⟨Nat.le_floor (by exact_mod_cast hlow), (Nat.floor_lt' ?_).mpr (by exact_mod_cast hhigh)⟩
  exact (Nat.pow_pos (by decide)).ne'

omit hn hd in
/-- Half a unit off at `10 ^ 16` units or more is close, since `2 ^ 53` is less. -/
theorem isClose_of_units {units unit : ℚ} (hunit : 0 < unit) (hsize : 10 ^ 16 ≤ units)
    (hx : units * unit = m * 2 ^ e) (hk : |k - units| ≤ 1 / 2) : IsClose (k * unit) m e := by
  rw [IsClose, ← hx, ← sub_mul, abs_mul, abs_of_pos hunit]
  calc |k - units| * unit * 2 ^ 54 ≤ 1 / 2 * unit * 2 ^ 54 := by gcongr
    _ < 10 ^ 16 * unit := by linarith
    _ ≤ units * unit := by gcongr

/-- With seventeen digits the nearest decimal is close to a double. -/
theorem onGrid?_seventeen (h : IsDouble m e) (hq : (num : ℚ) / den = m * 2 ^ e) :
    (onGrid? (.finite false m e) num den (pointFor num den) 17).isSome := by
  obtain ⟨hlow, -⟩ := grid_bounds hn hd 17
  have hscaled := (ten_zpow_pos _).le.trans hlow
  obtain ⟨hk, hnear⟩ := nearestEven_near hscaled
  rw [← gridFloor_eq] at hk
  refine onGrid?_isSome hk ?_
  rw [Reads, ofDecimal_eq_nearest]
  refine nearest_of_close h (isClose_of_units (ten_zpow_pos _) ?_ ?_ hnear)
  · norm_num at hlow ⊢
    exact hlow
  · rw [← hq, mul_assoc, ← zpow_add₀ (by norm_num)]
    simp

/-! ## The search -/

omit hn hd in
theorem decimalLength_eq_count (hc : 0 < count) (hlow : 10 ^ (count - 1) ≤ k)
    (hhigh : k < 10 ^ count) : decimalLength k = count := by
  obtain ⟨hlow', hhigh'⟩ := decimalLength_bounds (lt_of_lt_of_le (Nat.pow_pos (by decide)) hlow)
  have h1 := (Nat.pow_lt_pow_iff_right (by decide)).mp (lt_of_le_of_lt hlow hhigh')
  have h2 := (Nat.pow_lt_pow_iff_right (by decide)).mp (lt_of_le_of_lt hlow' hhigh)
  omega

/-- A decimal has digits that read back as a double. -/
def ReadsBack (d : Decimal) (x : Binary64) : Prop :=
  0 < d.digits ∧ ofDecimal false d.digits (d.point - decimalLength d.digits) = x

/-- What is found on a grid reads back, and all nines rounded up do with one digit. -/
theorem onGrid?_readsBack (hc : 0 < count)
    (h : onGrid? x num den (pointFor num den) count = some k) :
    ReadsBack (if k = Nat.pow 10 count then ⟨1, pointFor num den + 1⟩ else ⟨k, pointFor num den⟩)
      x := by
  obtain ⟨hlow, hhigh⟩ := gridFloor_bounds hn hd hc
  obtain ⟨hk, hreads⟩ := onGrid?_some h
  split
  · next hpow =>
    have hone : decimalLength 1 = 1 := rfl
    refine ⟨Nat.one_pos, ?_⟩
    rw [← show _ = x from hreads, hpow, hone, ofDecimal_eq_nearest, ofDecimal_eq_nearest]
    congr 1
    rw [show Nat.pow 10 count = 10 ^ count from rfl]
    push_cast
    rw [← zpow_natCast, ← zpow_add₀ (by norm_num)]
    simp
  · next hpow =>
    have hpow' : k ≠ 10 ^ count := hpow
    have hle : gridFloor num den (pointFor num den) count ≤ k := by omega
    have hlength : decimalLength k = count :=
      decimalLength_eq_count hc (hlow.trans hle) (by omega)
    refine ⟨lt_of_lt_of_le (Nat.pow_pos (by decide)) (hlow.trans hle), ?_⟩
    dsimp only
    rw [hlength]
    exact hreads

/-- The search goes on up to a grid that has such digits. -/
theorem search_readsBack (hc : 0 < count) (hfound : ∃ c, count ≤ c ∧ c < count + tries ∧
      (onGrid? x num den (pointFor num den) c).isSome) :
    ReadsBack (search x num den (pointFor num den) tries count) x := by
  induction tries generalizing count with
  | zero =>
    obtain ⟨c, hle, hlt, -⟩ := hfound
    omega
  | succ tries ih =>
    unfold search
    split
    · next k hk => exact onGrid?_readsBack hn hd hc hk
    · next hnone =>
      refine ih (Nat.succ_pos count) ?_
      obtain ⟨c, hle, hlt, hsome⟩ := hfound
      have hne : c ≠ count := by
        rintro rfl
        rw [hnone] at hsome
        cases hsome
      exact ⟨c, by omega, by omega, hsome⟩

end Search

/-- **The shortest digits of a double read back as it.** -/
theorem shortest_reads (h : IsDouble m e) (hm : 0 < m) (negative : Bool) :
    0 < (shortest m e).digits ∧ ofDecimal negative (shortest m e).digits
      ((shortest m e).point - decimalLength (shortest m e).digits) = .finite negative m e := by
  have hd := ratio_pos m e
  have hq := ratio_eq m e
  have hpos : (0 : ℚ) < m * 2 ^ e := mul_pos (by exact_mod_cast hm) (two_zpow_pos e)
  have hn : 0 < (ratio m e).1 := by
    rw [← hq] at hpos
    by_contra hzero
    rw [Nat.eq_zero_of_not_pos hzero, Nat.cast_zero, zero_div] at hpos
    exact lt_irrefl _ hpos
  obtain ⟨hdigits, hreads⟩ : ReadsBack (shortest m e) (.finite false m e) :=
    search_readsBack hn hd Nat.one_pos ⟨17, by decide, by decide, onGrid?_seventeen hn hd h hq⟩
  refine ⟨hdigits, ?_⟩
  rw [ofDecimal_eq_nearest] at hreads ⊢
  exact nearest_sign hreads negative

end Decimal

end Scaffold.Number
