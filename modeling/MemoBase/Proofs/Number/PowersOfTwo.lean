import MemoBase.Proofs.Number.Grid
import MemoBase.Proofs.Number.Interval

namespace MemoBase

variable {i n code : Nat} {q : Rat} {e g : Int}

namespace Format

theorem level_of_exact_eq (h : single.exact code = (2 : Rat) ^ ((i : Int) - 149)) :
    single.level code = i - 23 := by
  have hb : single.binadeSize = 2 ^ 23 := binadeSize_eq
  have hk : single.IsUnits (i - 23) (2 ^ min i 23) := by
    constructor
    case lt =>
      have := Nat.pow_le_pow_right (n := 2) (by decide) (Nat.min_le_right i 23)
      omega
    case le =>
      by_cases hi : i ≤ 23
      case pos => exact .inl (by omega)
      case neg => exact .inr (by rw [hb, Nat.min_eq_right (by omega)])
  have hx : single.exact ((i - 23) * single.binadeSize + 2 ^ min i 23) =
      (2 : Rat) ^ ((i : Int) - 149) := by
    rw [exact_add hk, spacing, Nat.cast_pow, Nat.cast_ofNat, ← zpow_natCast, ← zpow_add₀ (by norm_num)]
    congr 1
    simp only [single]
    omega
  rw [exact_inj (h.trans hx.symm), level_add hk]

end Format

namespace Decimal

-- The fraction that a power of two is of a power of ten.
def numerator (e g : Int) : Nat :=
  2 ^ (e - g).toNat * 5 ^ (-g).toNat

def denominator (e g : Int) : Nat :=
  numerator (-e) (-g)

theorem numerator_pos (e g : Int) : 0 < numerator e g := by
  rw [numerator]
  positivity

theorem zpow_eq_toNat_div {b : Rat} (hb : b ≠ 0) (e : Int) : b ^ e = b ^ e.toNat / b ^ (-e).toNat := by
  rw [← zpow_natCast, ← zpow_natCast, ← zpow_sub₀ hb]
  congr 1
  omega

theorem numerator_div_denominator (e g : Int) :
    (numerator e g / denominator e g : Rat) = 2 ^ e / 10 ^ g := by
  have h2 := zpow_eq_toNat_div (by norm_num : (2 : Rat) ≠ 0) (e - g)
  have h5 := zpow_eq_toNat_div (by norm_num : (5 : Rat) ≠ 0) (-g)
  rw [neg_sub, neg_neg] at *
  calc
    (numerator e g / denominator e g : Rat) = 2 ^ (e - g) * 5 ^ (-g) := by
      rw [h2, h5, denominator, numerator, numerator, neg_neg, neg_sub_neg]
      push_cast
      field_simp
    _ = 2 ^ e / 10 ^ g := by
      rw [show (10 : Rat) = 2 * 5 by norm_num, mul_zpow, zpow_sub₀ (by norm_num), zpow_neg]
      field_simp

-- The fraction is near to the decimal logarithm of two. The exponents of the singles are numbered from
-- the least one here, which is -149.
def decadeOfTwo (e : Int) : Int :=
  e * 1233 / 4096

theorem decade_check : ∀ i < 277, let e : Int := (i : Nat) - 149
    denominator e (decadeOfTwo e) ≤ numerator e (decadeOfTwo e) ∧
      numerator e (decadeOfTwo e) < 10 * denominator e (decadeOfTwo e) := by
  decide +kernel

theorem decade_two_zpow (hi : i < 277) :
    decade ((2 : Rat) ^ ((i : Int) - 149)) = decadeOfTwo (i - 149) := by
  have ⟨hl, hu⟩ := decade_check i hi
  have hd : (0 : Rat) < denominator (i - 149) (decadeOfTwo (i - 149)) := by
    exact_mod_cast numerator_pos _ _
  have h := numerator_div_denominator (i - 149) (decadeOfTwo (i - 149))
  have hp : (0 : Rat) < 10 ^ decadeOfTwo (i - 149) := by positivity
  refine decade_eq ?_ ?_
  · rw [← one_le_div hp, ← h, one_le_div hd]
    exact_mod_cast hl
  · rw [zpow_add_one₀ (by norm_num), mul_comm, ← div_lt_iff₀ hp, ← h, div_lt_iff₀ hd]
    exact_mod_cast hu

-- Of a neighbour below and one above, at the distances `a` and `b`, the nearer one is safe whenever the
-- other one is in reach. The spacing of the singles is `s`, and `m` of its `2 ^ 20` parts are safe below.
def Separated (s m a b : Nat) : Prop :=
  (a ≤ b → 2 ^ 20 * b ≤ (2 ^ 19 + 1) * s → 2 ^ 20 * a + s < m * s) ∧
    (b ≤ a → 2 ^ 20 * a ≤ (2 ^ 19 + 1) * s → 2 ^ 20 * b + s < 2 ^ 19 * s)

instance (s m a b : Nat) : Decidable (Separated s m a b) :=
  inferInstanceAs (Decidable (_ ∧ _))

theorem separated_check : ∀ i < 277, ((i : Nat) - 149 : Int) ∉ [-96, 87, 90] → ∀ n < 8,
    let e : Int := (i : Nat) - 149
    let g := decadeOfTwo e - (n : Nat)
    let r := numerator e g % denominator e g
    Separated (numerator e g) (if i < 24 then 2 ^ 19 else 2 ^ 18) (r * 2 ^ min i 23)
      ((denominator e g - r) * 2 ^ min i 23) := by
  decide +kernel

theorem Separated.mul {s m a b : Nat} {w : Rat} (h : Separated s m a b) (hw : 0 < w) :
    (a * w ≤ b * w → b * w ≤ s * w * (1 / 2 + 1 / 2 ^ 20) →
      a * w < s * w * (m / 2 ^ 20) - s * w / 2 ^ 20) ∧
    (b * w ≤ a * w → a * w ≤ s * w * (1 / 2 + 1 / 2 ^ 20) → b * w < s * w / 2 - s * w / 2 ^ 20) := by
  have hreach {c : Nat} (hc : c * w ≤ s * w * (1 / 2 + 1 / 2 ^ 20)) :
      2 ^ 20 * c ≤ (2 ^ 19 + 1) * s := by
    rw [mul_right_comm, mul_le_mul_iff_left₀ hw] at hc
    have : (2 ^ 20 * c : Rat) ≤ (2 ^ 19 + 1) * s := by linarith
    exact_mod_cast this
  constructor
  case left =>
    intro hab hb
    have := h.left (by exact_mod_cast (mul_le_mul_iff_left₀ hw).mp hab) (hreach hb)
    have : (2 ^ 20 * a + s : Rat) < m * s := by exact_mod_cast this
    nlinarith
  case right =>
    intro hba ha
    have := h.right (by exact_mod_cast (mul_le_mul_iff_left₀ hw).mp hba) (hreach ha)
    have : (2 ^ 20 * b + s : Rat) < 2 ^ 19 * s := by exact_mod_cast this
    nlinarith

-- All distances are integer multiples of one number.
theorem exists_mul_eq (hi : i < 277) (n : Nat) : let e : Int := i - 149
    let A := numerator e (decadeOfTwo e - n)
    let D := denominator e (decadeOfTwo e - n)
    ∃ w : Rat, 0 < w ∧ (2 : Rat) ^ e - below n (2 ^ e) = (A % D * 2 ^ min i 23 : Nat) * w ∧
      above n (2 ^ e) - (2 : Rat) ^ e = ((D - A % D) * 2 ^ min i 23 : Nat) * w ∧
      Format.single.spacing (i - 23) = A * w := by
  intro e A D
  have hD : 0 < D := numerator_pos _ _
  have hd : (0 : Rat) < D := by exact_mod_cast hD
  have hu := unit_pos n (2 ^ e)
  have hx : (2 : Rat) ^ e / unit n (2 ^ e) = A / D := by
    rw [unit, decade_two_zpow hi]
    exact (numerator_div_denominator _ _).symm
  have hb := below_add n (2 ^ e)
  rw [hx, Int.fract_div_natCast_eq_div_natCast_mod] at hb
  rw [div_eq_iff hu.ne'] at hx
  have hs : Format.single.spacing (i - 23) * 2 ^ min i 23 = 2 ^ e := by
    rw [Format.spacing, ← zpow_natCast, ← zpow_add₀ (by norm_num)]
    congr 1
    simp only [Format.single, e]
    omega
  refine ⟨unit n (2 ^ e) / (D * 2 ^ min i 23), by positivity, ?_, ?_, ?_⟩
  · calc
      (2 : Rat) ^ e - below n (2 ^ e) = (A % D : Nat) / D * unit n (2 ^ e) := by linarith
      _ = _ := by
        push_cast
        field_simp
  · calc
      above n (2 ^ e) - (2 : Rat) ^ e = (1 - (A % D : Nat) / D) * unit n (2 ^ e) := by
        rw [above]
        linarith
      _ = _ := by
        rw [Nat.cast_mul, Nat.cast_sub (Nat.mod_lt _ hD).le]
        push_cast
        field_simp
  · calc
      Format.single.spacing (i - 23) = A / D * unit n (2 ^ e) / 2 ^ min i 23 := by
        rw [← hx, eq_div_iff (by positivity), hs]
      _ = _ := by field_simp

theorem separated (hi : i < 277) (hx : ((i : Int) - 149) ∉ [-96, 87, 90]) (hn : n < 8) :
    let x : Rat := 2 ^ ((i : Int) - 149)
    let s := Format.single.spacing (i - 23)
    (x - below n x ≤ above n x - x → above n x - x ≤ s * (1 / 2 + 1 / 2 ^ 20) →
      x - below n x < Format.single.margin (i - 23) - s / 2 ^ 20) ∧
    (above n x - x ≤ x - below n x → x - below n x ≤ s * (1 / 2 + 1 / 2 ^ 20) →
      above n x - x < s / 2 - s / 2 ^ 20) := by
  obtain ⟨w, hw, ha, hb, hs⟩ := exists_mul_eq hi n
  have h := (separated_check i hi hx n hn).mul hw
  have hm : Format.single.spacing (i - 23) * ((if i < 24 then 2 ^ 19 else 2 ^ 18 : Nat) / 2 ^ 20) =
      Format.single.margin (i - 23) := by
    rw [Format.margin]
    split <;> split <;> first | omega | (push_cast; ring)
  rwa [← ha, ← hb, ← hs, hm] at h

end Decimal

namespace Single

theorem nearest_decimal_of_two_zpow (hi : i < 277) (hx : ((i : Int) - 149) ∉ [-96, 87, 90]) (hn : n < 8)
    (hc : 0 < code) (h : Format.single.exact code = (2 : Rat) ^ ((i : Int) - 149))
    (hd : HasDigits (n + 1) q) (hq : nearest q = code) :
    nearest (Decimal.nearest n (Format.single.exact code)).exact = code := by
  have hsep := Decimal.separated hi hx hn
  rw [← h, ← Format.level_of_exact_eq h] at hsep
  have hp := Format.exact_pos (F := .single) hc
  have hs := Format.single.spacing_pos (Format.single.level code)
  have ⟨hm, _⟩ := Format.single.margin_bounds (Format.single.level code)
  have hr := abs_le.mp (abs_exact_sub_le (hq.symm ▸ hc))
  rw [hq] at hr
  have hb := Decimal.below_le n (Format.single.exact code)
  have ha := Decimal.lt_above n (Format.single.exact code)
  rcases Decimal.exact_nearest_mem_or hp hd with h | ⟨he, hle, ha'⟩ | ⟨he, hle, hb'⟩
  case inl     => exact nearest_eq_of_mem_uIcc hq (nearest_exact code) h
  case inr.inl =>
    have := hsep.left hle (by linarith)
    exact he ▸ nearest_eq_of_lt hc (by linarith) (by linarith)
  case inr.inr =>
    have := hsep.right hle (by linarith)
    exact he ▸ nearest_eq_of_lt hc (by linarith) (by linarith)

end Single
end MemoBase
