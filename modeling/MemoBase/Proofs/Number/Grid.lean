import Mathlib.Algebra.Order.Floor.Ring
import MemoBase.Proofs.Number.Significance

namespace MemoBase

variable {n : Nat} {q x : Rat}

namespace Decimal

-- The last of `n + 1` digits counts so much.
def unit (n : Nat) (x : Rat) : Rat :=
  (10 : Rat) ^ (decade x - n)

def below (n : Nat) (x : Rat) : Rat :=
  ⌊x / unit n x⌋ * unit n x

def above (n : Nat) (x : Rat) : Rat :=
  below n x + unit n x

theorem unit_pos (n : Nat) (x : Rat) : 0 < unit n x :=
  zpow_pos (by norm_num) _

theorem below_add (n : Nat) (x : Rat) : below n x + Int.fract (x / unit n x) * unit n x = x := by
  rw [below, ← add_mul, Int.floor_add_fract, div_mul_cancel₀ _ (unit_pos n x).ne']

theorem below_le (n : Nat) (x : Rat) : below n x ≤ x := by
  have := mul_nonneg (Int.fract_nonneg (x / unit n x)) (unit_pos n x).le
  linarith [below_add n x]

theorem lt_above (n : Nat) (x : Rat) : x < above n x := by
  have := mul_lt_mul_of_pos_right (Int.fract_lt_one (x / unit n x)) (unit_pos n x)
  rw [above]
  linarith [below_add n x]

theorem unit_bounds (hx : 0 < x) : 10 ^ n * unit n x ≤ x ∧ x < 10 ^ (n + 1) * unit n x := by
  have h (i : Nat) : (10 : Rat) ^ (n + i) * unit n x = 10 ^ (decade x + i) := by
    rw [unit, ← zpow_natCast, ← zpow_add₀ (by norm_num)]
    push_cast
    ring_nf
  have h₀ := h 0
  rw [Nat.cast_zero, add_zero, add_zero] at h₀
  rw [h₀, h 1, Nat.cast_one]
  exact decade_bounds hx

theorem le_below (hx : 0 < x) : 10 ^ n * unit n x ≤ below n x := by
  have hu := unit_pos n x
  have ⟨hl, _⟩ := unit_bounds (n := n) hx
  have hn : ((10 ^ n : Nat) : Int) ≤ ⌊x / unit n x⌋ := by
    rw [Int.le_floor, le_div_iff₀ hu]
    exact_mod_cast hl
  rw [below]
  gcongr
  exact_mod_cast hn

theorem exact_nearest (hx : 0 < x) : (nearest n x).exact = roundEven (x / unit n x) * unit n x := by
  have hu := unit_pos n x
  have : 0 ≤ roundEven (x / unit n x) := le_roundEven (by simpa using by positivity)
  rw [nearest, exact, ← unit]
  congr 1
  exact_mod_cast Int.toNat_of_nonneg this

theorem exact_nearest_cases (n : Nat) (hx : 0 < x) :
    (nearest n x).exact = below n x ∧ x - below n x ≤ above n x - x ∨
      (nearest n x).exact = above n x ∧ above n x - x ≤ x - below n x := by
  have hu := unit_pos n x
  have hb := below_add n x
  rw [exact_nearest hx, above]
  rcases roundEven_cases (x / unit n x) with ⟨hr, hf⟩ | ⟨hr, hf⟩
  case inl =>
    have := mul_le_mul_of_nonneg_right hf hu.le
    exact .inl ⟨by rw [hr, below], by linarith⟩
  case inr =>
    have := mul_le_mul_of_nonneg_right hf hu.le
    refine .inr ⟨?_, by linarith⟩
    rw [hr, below]
    push_cast
    ring

theorem exact_nearest_pos (n : Nat) (hx : 0 < x) : 0 < (nearest n x).exact := by
  have hu := unit_pos n x
  have hb := le_below (n := n) hx
  have : 0 < 10 ^ n * unit n x := by positivity
  rcases exact_nearest_cases n hx with ⟨he, _⟩ | ⟨he, _⟩ <;> rw [he]
  case inl => linarith
  case inr =>
    rw [above]
    linarith

theorem hasDigits_nearest (n : Nat) (hx : 0 < x) : HasDigits (n + 1) (nearest n x).exact := by
  have ⟨_, hu⟩ := unit_bounds (n := n) hx
  have hd : (nearest n x).digits ≤ 10 ^ (n + 1) := by
    have := roundEven_le (q := x / unit n x) (n := (10 ^ (n + 1) : Nat)) (by
      rw [div_le_iff₀ (unit_pos n x)]
      exact_mod_cast hu.le)
    exact Int.toNat_le.mpr (by exact_mod_cast this)
  rcases hd.lt_or_eq with h | h
  case inl => exact ⟨_, _, h, rfl⟩
  case inr =>
    refine ⟨1, (n + 1 : Nat) + (nearest n x).exp, Nat.one_lt_pow (by omega) (by decide), ?_⟩
    rw [exact, h, Nat.cast_one, one_mul, zpow_add₀ (by norm_num), zpow_natCast]
    push_cast
    rfl

-- Decimals with a smaller unit are too small for the decade.
theorem le_below_or_above_le (hx : 0 < x) (h : HasDigits (n + 1) q) :
    q ≤ below n x ∨ above n x ≤ q := by
  obtain ⟨d, e, hd, rfl⟩ := h
  have hu := unit_pos n x
  by_cases he : decade x - n ≤ e
  case pos =>
    obtain ⟨i, hi⟩ := Int.le.dest he
    have hq : (d : Rat) * 10 ^ e = (d * 10 ^ i : Nat) * unit n x := by
      rw [← hi, zpow_add₀ (by norm_num), zpow_natCast, unit]
      push_cast
      ring
    rw [hq, above, below, ← add_one_mul, mul_le_mul_iff_left₀ hu, mul_le_mul_iff_left₀ hu]
    norm_cast
    omega
  case neg =>
    left
    have hd : (d : Rat) ≤ (10 ^ (n + 1) : Nat) := by exact_mod_cast hd.le
    calc
      (d : Rat) * 10 ^ e ≤ (10 ^ (n + 1) : Nat) * 10 ^ (decade x - n - 1) := by
        gcongr
        · norm_num
        · omega
      _ = 10 ^ n * unit n x := by
        rw [zpow_sub_one₀ (by norm_num), unit]
        push_cast
        ring
      _ ≤ below n x := le_below hx

-- The nearest decimal is between the number and any other decimal, unless this is on the other side.
theorem exact_nearest_mem_or (hx : 0 < x) (h : HasDigits (n + 1) q) :
    (nearest n x).exact ∈ Set.uIcc q x ∨
      (nearest n x).exact = below n x ∧ x - below n x ≤ above n x - x ∧ above n x ≤ q ∨
      (nearest n x).exact = above n x ∧ above n x - x ≤ x - below n x ∧ q ≤ below n x := by
  have hl := below_le n x
  have hu := (lt_above n x).le
  rcases exact_nearest_cases n hx with ⟨he, hle⟩ | ⟨he, hle⟩ <;>
    rcases le_below_or_above_le hx h with hb | ha
  case inl.inl => exact .inl (he ▸ Set.mem_uIcc_of_le hb hl)
  case inr.inr => exact .inl (he ▸ Set.mem_uIcc_of_ge hu ha)
  case inl.inr => exact .inr (.inl ⟨he, hle, ha⟩)
  case inr.inl => exact .inr (.inr ⟨he, hle, hb⟩)

end Decimal
end MemoBase
