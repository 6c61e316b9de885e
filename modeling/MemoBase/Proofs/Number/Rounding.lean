import Mathlib.Algebra.Order.Field.Power
import Mathlib.Data.Nat.Log
import Mathlib.Data.Rat.Floor
import Mathlib.Tactic.FieldSimp
import Mathlib.Tactic.GCongr
import Mathlib.Tactic.Linarith
import Mathlib.Tactic.NormNum
import Mathlib.Tactic.Positivity
import Mathlib.Tactic.Ring
import MemoBase.Number.Shortest

namespace MemoBase

variable {q r : Rat} {n e : Int}

section RoundEven

-- The rounded number is one of the neighbours, and the other one is not nearer.
theorem roundEven_cases (q : Rat) : roundEven q = ⌊q⌋ ∧ Int.fract q ≤ 1 / 2 ∨
    roundEven q = ⌊q⌋ + 1 ∧ 1 / 2 ≤ Int.fract q := by
  have hf : q.floor = ⌊q⌋ := rfl
  rw [roundEven, hf, Int.self_sub_floor]
  split
  case isTrue h => exact .inl ⟨rfl, h.le⟩
  case isFalse h =>
    split
    case isTrue h' => exact .inr ⟨rfl, h'.le⟩
    case isFalse h' =>
      have : ⌊q⌋ % 2 = 0 ∨ ⌊q⌋ % 2 = 1 := by omega
      rcases this with hm | hm
      case inl => exact .inl ⟨by omega, not_lt.mp h'⟩
      case inr => exact .inr ⟨by omega, not_lt.mp h⟩

theorem abs_roundEven_sub_le (q : Rat) : |(roundEven q : Rat) - q| ≤ 1 / 2 := by
  have hq := Int.floor_add_fract q
  have hf := Int.fract_nonneg q
  have hl := Int.fract_lt_one q
  rw [abs_le]
  rcases roundEven_cases q with ⟨h, hh⟩ | ⟨h, hh⟩ <;> rw [h]
  case inl => constructor <;> linarith
  case inr => push_cast; constructor <;> linarith

theorem roundEven_eq_of_abs_lt (h : |q - n| < 1 / 2) : roundEven q = n := by
  have hr := abs_le.mp (abs_roundEven_sub_le q)
  have hn := abs_lt.mp h
  have hl : (roundEven q : Rat) < n + 1 := by linarith [hr.right, hn.right]
  have hu : (n : Rat) < roundEven q + 1 := by linarith [hr.left, hn.left]
  norm_cast at hl hu
  omega

@[simp]
theorem roundEven_intCast (n : Int) : roundEven n = n :=
  roundEven_eq_of_abs_lt (by simp)

theorem le_roundEven (h : n ≤ q) : n ≤ roundEven q := by
  have hr := abs_le.mp (abs_roundEven_sub_le q)
  have : (n : Rat) < roundEven q + 1 := by linarith [hr.left]
  norm_cast at this
  omega

theorem roundEven_le (h : q ≤ n) : roundEven q ≤ n := by
  have hr := abs_le.mp (abs_roundEven_sub_le q)
  have : (roundEven q : Rat) < n + 1 := by linarith [hr.right]
  norm_cast at this
  omega

-- The rounded number of units, as it is used: as a natural number.
theorem abs_toNat_roundEven_sub_le (h : 0 ≤ q) : |((roundEven q).toNat : Rat) - q| ≤ 1 / 2 := by
  have hn : 0 ≤ roundEven q := le_roundEven (by simpa using h)
  have : ((roundEven q).toNat : Rat) = roundEven q := by exact_mod_cast Int.toNat_of_nonneg hn
  rw [this]
  exact abs_roundEven_sub_le q

-- Rounding to a whole number of units.
theorem abs_toNat_roundEven_mul_sub_le {u : Rat} (hu : 0 < u) (h : 0 ≤ q) :
    |((roundEven (q / u)).toNat : Rat) * u - q| ≤ u / 2 := by
  have hr := abs_toNat_roundEven_sub_le (q := q / u) (by positivity)
  generalize (roundEven (q / u)).toNat = k at *
  calc
    |k * u - q| = |k - q / u| * u := by
      rw [← abs_of_pos hu, ← abs_mul, abs_of_pos hu, sub_mul, div_mul_cancel₀ q hu.ne']
    _ ≤ 1 / 2 * u := by gcongr
    _ = u / 2 := by ring

theorem roundEven_add_half (n : Int) : roundEven (n + 1 / 2) = n + n % 2 := by
  have hf : ⌊(n + 1 / 2 : Rat)⌋ = n := Int.floor_eq_iff.mpr ⟨by linarith, by linarith⟩
  have hf : (n + 1 / 2 : Rat).floor = n := hf
  rw [roundEven, hf, if_neg (by linarith), if_neg (by linarith)]

-- Which of two integers is even is not changed by a reflection in an integer.
theorem roundEven_reflect (n : Int) (q : Rat) : roundEven (2 * n - q) = 2 * n - roundEven q := by
  have ⟨hl, hu⟩ := abs_le.mp (abs_roundEven_sub_le q)
  by_cases h : |roundEven q - q| < 1 / 2
  case pos =>
    refine roundEven_eq_of_abs_lt ?_
    push_cast
    rwa [show (2 * n - q - (2 * n - roundEven q) : Rat) = roundEven q - q by ring]
  case neg =>
    obtain ⟨m, rfl⟩ : ∃ m : Int, q = m + 1 / 2 := by
      rcases abs_cases ((roundEven q : Rat) - q) with ⟨ha, _⟩ | ⟨ha, _⟩
      case inl => exact ⟨roundEven q - 1, by push_cast; linarith⟩
      case inr => exact ⟨roundEven q, by linarith⟩
    have : (2 * n - (m + 1 / 2) : Rat) = (2 * n - m - 1 : Int) + 1 / 2 := by
      push_cast
      ring
    rw [this, roundEven_add_half, roundEven_add_half]
    omega

end RoundEven

section Binade

theorem log2_bounds {n : Nat} (hn : 0 < n) :
    (2 : Rat) ^ (n.log2 : Int) ≤ n ∧ (n : Rat) < (2 : Rat) ^ (n.log2 + 1 : Int) := by
  have hl := Nat.log2_self_le hn.ne'
  have hu := Nat.lt_log2_self (n := n)
  exact ⟨by exact_mod_cast hl, by exact_mod_cast hu⟩

theorem num_natAbs_eq_mul_den (hq : 0 < q) : (q.num.natAbs : Rat) = q * q.den := by
  have : ((q.num.natAbs : Int) : Rat) = q.num := by
    rw [Int.natAbs_of_nonneg (Rat.num_pos.mpr hq).le]
  rw [Rat.mul_den_eq_num, ← this, Int.cast_natCast]

-- Numerator and denominator fix the power up to a factor of two.
theorem binade_bounds (hq : 0 < q) : (2 : Rat) ^ binade q ≤ q ∧ q < (2 : Rat) ^ (binade q + 1) := by
  have ⟨hnl, hnu⟩ := log2_bounds (Int.natAbs_pos.mpr (Rat.num_pos.mpr hq).ne')
  have ⟨hdl, hdu⟩ := log2_bounds q.den_pos
  have hd : (0 : Rat) < q.den := by exact_mod_cast q.den_pos
  rw [num_natAbs_eq_mul_den hq] at hnl hnu
  rw [binade]
  generalize (q.num.natAbs.log2 : Int) = a at *
  generalize (q.den.log2 : Int) = b at *
  have hu : q < (2 : Rat) ^ (a - b + 1) := by
    refine lt_of_mul_lt_mul_right ?_ hd.le
    calc
      q * q.den < (2 : Rat) ^ (a - b + 1 + b) := by rwa [show a - b + 1 + b = a + 1 by ring]
      _ = (2 : Rat) ^ (a - b + 1) * 2 ^ b := zpow_add₀ (by norm_num) _ _
      _ ≤ _ := by gcongr
  have hl : (2 : Rat) ^ (a - b - 1) < q := by
    refine lt_of_mul_lt_mul_right ?_ hd.le
    calc
      (2 : Rat) ^ (a - b - 1) * q.den < 2 ^ (a - b - 1) * 2 ^ (b + 1) := by gcongr
      _ = 2 ^ a := by rw [← zpow_add₀ (by norm_num)]; ring_nf
      _ ≤ _ := hnl
  split
  case isTrue h  => exact ⟨h, hu⟩
  case isFalse h => exact ⟨hl.le, by rw [sub_add_cancel]; exact not_le.mp h⟩

theorem binade_lt_iff (hq : 0 < q) : binade q < e ↔ q < (2 : Rat) ^ e := by
  have ⟨hl, hu⟩ := binade_bounds hq
  constructor
  case mp =>
    intro h
    exact hu.trans_le (zpow_le_zpow_right₀ (by norm_num) h)
  case mpr =>
    intro h
    exact (zpow_lt_zpow_iff_right₀ (by norm_num : (1 : Rat) < 2)).mp (hl.trans_lt h)

theorem binade_eq {e : Int} (hl : (2 : Rat) ^ e ≤ q) (hu : q < (2 : Rat) ^ (e + 1)) : binade q = e := by
  have hq : 0 < q := hl.trans_lt' (by positivity)
  have := (binade_lt_iff hq).mpr hu
  have := (binade_lt_iff hq).not.mpr (not_lt.mpr hl)
  omega

end Binade

section Decade

theorem digitCount_bounds {n : Nat} (hn : 0 < n) :
    0 < digitCount n ∧ 10 ^ (digitCount n - 1) ≤ n ∧ n < 10 ^ digitCount n := by
  induction n using digitCount.induct
  case case1 => contradiction
  case case2 n hn' ih =>
    rw [digitCount, if_neg hn', Nat.add_sub_cancel]
    rcases Nat.eq_zero_or_pos (n / 10) with h | h
    case inl =>
      rw [h, digitCount]
      simp
      omega
    case inr =>
      have ⟨hp, hl, hu⟩ := ih h
      refine ⟨by omega, ?_, ?_⟩
      · have : digitCount (n / 10) = digitCount (n / 10) - 1 + 1 := by omega
        rw [this, Nat.pow_succ]
        omega
      · rw [Nat.pow_succ]
        omega

theorem digitCount_bounds_rat {n : Nat} (hn : 0 < n) :
    (10 : Rat) ^ (digitCount n - 1 : Int) ≤ n ∧
      (n : Rat) + 1 ≤ (10 : Rat) ^ (digitCount n : Int) := by
  have ⟨hp, hl, hu⟩ := digitCount_bounds hn
  have : (digitCount n - 1 : Int) = (digitCount n - 1 : Nat) := by omega
  rw [this]
  exact ⟨by exact_mod_cast hl, by exact_mod_cast hu⟩

-- Below one the digits of the inverse are counted.
theorem decade_bounds (hq : 0 < q) :
    (10 : Rat) ^ decade q ≤ q ∧ q < (10 : Rat) ^ (decade q + 1) := by
  rw [decade]
  split
  case isTrue h =>
    have hf : 1 ≤ q.floor := Int.le_floor.mpr (by exact_mod_cast h)
    have ⟨hl, hu⟩ := digitCount_bounds_rat (n := q.floor.toNat) (by omega)
    have hc : (q.floor.toNat : Rat) = q.floor := by exact_mod_cast Int.toNat_of_nonneg (by omega)
    have hfl : (q.floor : Rat) ≤ q := Int.floor_le q
    have hfu : q < q.floor + 1 := Int.lt_floor_add_one q
    rw [hc] at hl hu
    exact ⟨hl.trans hfl, by rw [sub_add_cancel]; exact hfu.trans_le hu⟩
  case isFalse h =>
    have hr : 1 < q⁻¹ := (one_lt_inv₀ hq).mpr (not_le.mp h)
    have hcl : q⁻¹ ≤ q⁻¹.ceil := Rat.le_ceil
    have hcu : (q⁻¹.ceil : Rat) < q⁻¹ + 1 := Rat.ceil_lt
    have hc : 1 < q⁻¹.ceil := by exact_mod_cast hr.trans_le hcl
    have ⟨hl, hu⟩ := digitCount_bounds_rat (n := (q⁻¹.ceil - 1).toNat) (by omega)
    have hn : ((q⁻¹.ceil - 1).toNat : Rat) = q⁻¹.ceil - 1 := by
      exact_mod_cast Int.toNat_of_nonneg (by omega)
    rw [hn] at hl hu
    generalize digitCount (q⁻¹.ceil - 1).toNat = d at *
    constructor
    case left =>
      rw [zpow_neg]
      exact inv_le_of_inv_le₀ hq (by linarith)
    case right =>
      have : (10 : Rat) ^ (-d + 1 : Int) = ((10 : Rat) ^ (d - 1 : Int))⁻¹ := by
        rw [← zpow_neg]
        ring_nf
      rw [this]
      exact (lt_inv_comm₀ hq (by positivity)).mpr (by linarith)

theorem decade_eq (hl : (10 : Rat) ^ e ≤ q) (hu : q < (10 : Rat) ^ (e + 1)) : decade q = e := by
  have ⟨hdl, hdu⟩ := decade_bounds (hl.trans_lt' (by positivity))
  have hd := (zpow_lt_zpow_iff_right₀ (by norm_num : (1 : Rat) < 10)).mp (hdl.trans_lt hu)
  have hd' := (zpow_lt_zpow_iff_right₀ (by norm_num : (1 : Rat) < 10)).mp (hl.trans_lt hdu)
  omega

end Decade
end MemoBase
