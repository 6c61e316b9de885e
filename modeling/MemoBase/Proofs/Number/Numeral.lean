import MemoBase.Proofs.Number.Digits
import MemoBase.Proofs.Number.Order
import MemoBase.Proofs.Text.Cut

namespace MemoBase

open Text

variable {c : Char} {s : Text} {m n width digits : Nat} {e : Int} {neg : Bool} {x : Numeral}

-- The form in which numbers are written: a hyphen in front of negative ones.
def Text.signed (neg : Bool) (s : Text) : Text :=
  if neg then '-' :: s else s

-- Only the capitals of the common alphabet have a small letter here.
theorem Text.toNat_toLower (c : Char) :
    c.toLower.toNat = if 65 ≤ c.toNat ∧ c.toNat ≤ 90 then c.toNat + 32 else c.toNat := by
  have hu : (65 ≤ c.val ∧ c.val ≤ 90) ↔ 65 ≤ c.toNat ∧ c.toNat ≤ 90 := by
    rw [UInt32.le_iff_toNat_le, UInt32.le_iff_toNat_le]
    rfl
  delta Char.toLower
  split
  case isFalse h => rw [if_neg (mt hu.mpr h)]
  case isTrue h  =>
    have h := hu.mp h
    have : (c.val + 32).toNat = (c.toNat + 32) % 2 ^ 32 := UInt32.toNat_add ..
    rw [if_pos h, ← Nat.mod_eq_of_lt (by omega : c.toNat + 32 < 2 ^ 32), ← this]
    rfl

namespace Numeral

-- A digit of any script begins neither a sign nor a word.
theorem sign_cons_of_isDigit (h : isDigit c) : sign (c :: s) = (false, c :: s) := by
  simp only [sign]
  split
  case h_1 he => cases he; exact absurd h (by decide)
  case h_2 he => cases he; exact absurd h (by decide)
  case h_3    => rfl

theorem toLower_of_isDigit (h : isDigit c) : c.toLower = c := by
  rw [← Char.toNat_inj, toNat_toLower]
  refine if_neg fun hu => ?_
  have : c.toNat < 0x80 := by omega
  have hd : c.isDigit := by simpa [isDigit, digitValue?, this] using h
  have hd := Char.isDigit_iff_toNat.mp hd
  simp only [Char.reduceToNat] at hd
  omega

theorem foldLetter_of_isDigit (h : isDigit c) : foldLetter c = c := by
  have hf : isForeign c = false := by
    cases hf : isForeign c
    case false => rfl
    case true  =>
      simp only [isForeign, Bool.or_eq_true, beq_iff_eq] at hf
      rcases hf with rfl | rfl <;> exact absurd h (by decide)
  rw [foldLetter, hf, if_neg (by decide), toLower_of_isDigit h]

theorem word?_cons (h : foldLetter c = c) (hi : c ≠ 'i') (hn : c ≠ 'n') :
    word? neg (c :: s) = none := by
  simp [word?, h, hi, hn]

theorem word?_cons_of_isDigit (h : isDigit c) : word? neg (c :: s) = none := by
  apply word?_cons (foldLetter_of_isDigit h)
  all_goals
    rintro rfl
    exact absurd h (by decide)

theorem read_signed (hc : isDigit c) (h : finite? neg (c :: s) = some x) :
    read (signed neg (c :: s)) = .ok x := by
  cases neg
  case true  => simp [read, signed, sign, word?_cons_of_isDigit hc, h]
  case false => simp [read, signed, sign_cons_of_isDigit hc, word?_cons_of_isDigit hc, h]

theorem read_signed_ofNat_append (h : finite? neg (ofNat n ++ s) = some x) :
    read (signed neg (ofNat n ++ s)) = .ok x := by
  have hd : ∀ c ∈ ofNat n, isDigit c := fun _ hc => isDigit_of_isDigit (isDigit_of_mem_ofNat hc)
  cases hn : ofNat n
  case nil => exact absurd hn ofNat_ne_nil
  case cons c t =>
    rw [hn, List.cons_append] at h
    exact read_signed (hd c (hn ▸ List.mem_cons_self)) h

theorem cut_ofNat (hs : Stops isDigit s) : (ofNat n ++ s).cut isDigit = (ofNat n, s) :=
  cut_append (fun _ hc => isDigit_of_isDigit (isDigit_of_mem_ofNat hc)) hs

theorem finite?_ofNat (neg : Bool) (n : Nat) : finite? neg (ofNat n) = some (finite neg n 0) := by
  have hc := cut_ofNat (n := n) Stops.nil
  have hn := natOfDigits_ofNat (n := n)
  have hne := ofNat_ne_nil (n := n)
  generalize ofNat n = s at *
  rw [List.append_nil] at hc
  simp [finite?, hc, fraction, exponent?, hn, hne]

theorem read_signed_ofNat : read (signed neg (ofNat n)) = .ok (finite neg n 0) := by
  have h := finite?_ofNat neg n
  rw [← List.append_nil (ofNat n)] at h ⊢
  exact read_signed_ofNat_append h

theorem finite?_decimal (neg : Bool) (m : Nat) (hw : 0 < width) (h : n < Nat.pow 10 width) :
    finite? neg (ofNat m ++ '.' :: Decimal.padded width n) =
      some (finite neg (m * Nat.pow 10 width + n) (-width)) := by
  have hs : Stops isDigit ('.' :: Decimal.padded width n) := Stops.cons.mpr (by decide)
  have hc := cut_ofNat (n := m) hs
  have hf : (Decimal.padded width n).cut isDigit = (Decimal.padded width n, []) := by
    have := cut_append (p := isDigit) (w := Decimal.padded width n) (r := [])
      (fun _ hc => isDigit_of_isDigit (Decimal.isDigit_of_mem_padded hc)) Stops.nil
    rwa [List.append_nil] at this
  have hn := Decimal.natOfDigits_ofNat_append_padded (m := m) hw h
  have hl := Decimal.length_padded hw h
  have hne := ofNat_ne_nil (n := m)
  generalize ofNat m = s at *
  generalize Decimal.padded width n = t at *
  simp [finite?, hc, fraction, hf, exponent?, hn, hne, hl]

section Range

theorem two_zpow_mul_three (e : Int) : (2 : Rat) ^ (3 * e) = 8 ^ e := by
  rw [zpow_mul]
  norm_num

theorem two_zpow_le_ten_zpow (he : 0 ≤ e) : (2 : Rat) ^ (3 * e) ≤ 10 ^ e := by
  rw [two_zpow_mul_three]
  exact zpow_le_zpow_left₀ he (by norm_num) (by norm_num)

theorem ten_zpow_le_two_zpow (he : e ≤ 0) : (10 : Rat) ^ e ≤ 2 ^ (3 * e) := by
  have := inv_anti₀ (by positivity) (two_zpow_le_ten_zpow (e := -e) (by omega))
  rwa [mul_neg, zpow_neg, zpow_neg, inv_inv, inv_inv] at this

theorem nearest_of_low (hd : 0 < digits) (h : digits.log2 + 3 * e < -1100) :
    Format.double.nearest (digits * (10 : Rat) ^ e) = 0 := by
  have hp : (0 : Rat) < digits := by exact_mod_cast hd
  refine Format.nearest_eq_zero (by positivity) ?_
  calc
    (digits : Rat) * 10 ^ e < 2 ^ (digits.log2 + 1 : Int) * 10 ^ e := by
      gcongr
      exact (log2_bounds hd).right
    _ ≤ 2 ^ (digits.log2 + 1 : Int) * 2 ^ (3 * e) := by
      gcongr
      exact ten_zpow_le_two_zpow (by omega)
    _ = 2 ^ (digits.log2 + 1 + 3 * e) := (zpow_add₀ (by norm_num) _ _).symm
    _ ≤ 2 ^ (-1075 : Int) := zpow_le_zpow_right₀ (by norm_num) (by omega)
    _ = Format.double.spacing 0 / 2 := by
      rw [Format.spacing, div_eq_mul_inv, ← zpow_sub_one₀ (by norm_num)]
      rfl

theorem top_le_nearest_of_high (hd : 0 < digits) (h : 1100 < 3 * e) :
    Format.double.top ≤ Format.double.nearest (digits * (10 : Rat) ^ e) := by
  have hp : (1 : Rat) ≤ digits := by exact_mod_cast hd
  have hu : Format.double.IsUnits 2046 Format.double.binadeSize := ⟨by decide, by decide⟩
  refine Format.top_le_nearest ?_
  calc
    Format.double.exact Format.double.top =
        Format.double.exact (2046 * Format.double.binadeSize + Format.double.binadeSize) := by
      congr 1
    _ = 2 ^ (1024 : Int) := by
      rw [Format.exact_add hu, Format.binadeSize_mul_spacing]
      rfl
    _ ≤ 2 ^ (3 * e) := zpow_le_zpow_right₀ (by norm_num) (by omega)
    _ ≤ 10 ^ e := two_zpow_le_ten_zpow (by omega)
    _ ≤ digits * 10 ^ e := le_mul_of_one_le_left (by positivity) hp

-- What is not worked out would be rounded to the same number.
theorem toDouble_finite (neg : Bool) (digits : Nat) (e : Int) :
    (finite neg digits e).toDouble = .ofRat neg (digits * (10 : Rat) ^ e) := by
  by_cases hd : digits = 0
  case pos => simp [toDouble, hd, Binary.ofRat, Binary.zero]
  case neg =>
    have hd := Nat.pos_of_ne_zero hd
    rw [toDouble]
    split
    case isTrue h =>
      have := nearest_of_low hd (h.resolve_left hd.ne')
      simp [Binary.ofRat, Binary.zero, this]
    case isFalse =>
      split
      case isTrue h =>
        have := top_le_nearest_of_high hd h
        simp [Binary.ofRat, Binary.infinite, Nat.min_eq_left this]
      case isFalse => rfl

end Range

end Numeral
end MemoBase
