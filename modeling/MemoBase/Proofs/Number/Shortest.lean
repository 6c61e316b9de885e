import MemoBase.Proofs.Number.Interval
import MemoBase.Proofs.Number.Numeral
import MemoBase.Value

namespace MemoBase

open Text

variable {q : Rat} {n : Nat} {neg : Bool}

namespace Decimal

variable {d : Decimal}

theorem abs_exact_nearest_sub_le (n : Nat) (hq : 0 < q) :
    |(nearest n q).exact - q| ≤ q / (2 * 10 ^ n) := by
  have ⟨hl, _⟩ := decade_bounds hq
  have hu : (0 : Rat) < 10 ^ (decade q - n : Int) := zpow_pos (by norm_num) _
  refine (abs_toNat_roundEven_mul_sub_le hu hq.le).trans ?_
  rw [zpow_sub₀ (by norm_num), zpow_natCast]
  calc
    (10 : Rat) ^ decade q / 10 ^ n / 2 = 10 ^ decade q / (2 * 10 ^ n) := by ring
    _ ≤ q / (2 * 10 ^ n) := by gcongr

-- Stripping drops zeros that say nothing.
theorem exact_strip (d : Decimal) : d.strip.exact = d.exact := by
  induction d using strip.induct
  case case1 d h hi =>
    have hd : d.digits = d.digits / 10 * 10 := by omega
    rw [strip, if_pos h, hi, exact, exact, zpow_add_one₀ (by norm_num)]
    conv_rhs => rw [hd]
    push_cast
    ring
  case case2 d h => rw [strip, if_neg h]

theorem text_reads (d : Decimal) (neg : Bool) :
    ∃ digits e, Numeral.read (signed neg d.text) = .ok (.finite neg digits e) ∧
      (digits : Rat) * 10 ^ e = d.exact := by
  rw [← d.exact_strip]
  simp only [text]
  generalize d.strip = t
  split
  case isTrue h =>
    have hw : 0 < t.exp.natAbs := by omega
    have hr := Numeral.finite?_decimal neg (t.digits / Nat.pow 10 t.exp.natAbs) hw
      (Nat.mod_lt t.digits (Nat.pow_pos (by decide)))
    rw [Nat.div_add_mod', show -(t.exp.natAbs : Int) = t.exp by omega] at hr
    exact ⟨t.digits, t.exp, Numeral.read_signed_ofNat_append hr, rfl⟩
  case isFalse h =>
    refine ⟨_, 0, Numeral.read_signed_ofNat, ?_⟩
    have : t.exp = t.exp.toNat := by omega
    rw [exact, zpow_zero, mul_one, this, zpow_natCast, Int.toNat_natCast, Nat.pow_eq]
    push_cast
    rfl

theorem read_text (d : Decimal) (neg : Bool) :
    Single.read (signed neg d.text) =
      .ok ((Binary.ofRat neg d.exact : Double).convert .single) := by
  have ⟨digits, e, hr, hx⟩ := d.text_reads neg
  rw [Single.read, hr, Except.map, Numeral.toDouble_finite, hx]

end Decimal

namespace Single

variable {code : Fin (Format.single.top + 1)}

theorem read_ofNat (neg : Bool) (hn : n < 2 ^ 53) :
    Single.read (signed neg (Text.ofNat n)) = .ok (.ofRat neg n) := by
  rw [Single.read, Numeral.read_signed_ofNat, Except.map, Numeral.toDouble_finite, zpow_zero, mul_one,
    Binary.convert_ofRat_natCast hn]

-- A decimal that is taken for a number is a text of that number.
theorem read_text_of_hasMagnitude {d : Decimal}
    (h : d.toSingle.hasMagnitude (Format.single.exact code)) :
    Single.read (signed neg d.text) = .ok (.num neg code) := by
  have ⟨code', hc⟩ := Binary.exists_convert_ofRat .double .single d.exact
  rw [Decimal.toSingle, hc false] at h
  simp only [Binary.hasMagnitude, decide_eq_true_eq] at h
  have := Format.exact_inj h.right
  rw [d.read_text, hc neg, Fin.ext this]

-- A magnitude is written as an integer, with the least number of digits that do, or with all nine.
theorem read_magnitudeText (h : code.val < Format.single.top) :
    Single.read (signed neg (Binary.magnitudeText (Format.single.exact code))) =
      .ok (.num neg code) := by
  rw [Binary.magnitudeText]
  split
  case isTrue hq =>
    have hx : 0 ≤ Format.single.exact code := Format.exact_nonneg _
    have hn : (((Format.single.exact code).num.natAbs : Nat) : Rat) = Format.single.exact code := by
      rw [Nat.cast_natAbs, abs_of_nonneg (Rat.num_nonneg.mpr hx)]
      exact Rat.den_eq_one_iff _ |>.mp hq.left
    have hu : (Format.single.exact code).num.natAbs < 2 ^ 53 := by
      have := hn ▸ hq.right
      norm_cast at this
      omega
    rw [read_ofNat neg hu, hn, Binary.ofRat_exact]
  case isFalse hq =>
    have hc : 0 < code.val := by
      by_contra hc
      rw [Nat.eq_zero_of_not_pos hc, Format.exact_zero] at hq
      exact hq ⟨rfl, by norm_num⟩
    have hq := Format.exact_pos (F := .single) hc
    simp only
    cases hf : List.find? _ (List.range 8)
    case some n =>
      have hm := List.find?_some hf
      exact read_text_of_hasMagnitude hm
    case none =>
      have hnear := Decimal.abs_exact_nearest_sub_le 8 hq
      rw [Option.getD_none, Decimal.read_text, Binary.convert_ofRat_of_near hc h]
      refine hnear.trans ?_
      gcongr
      norm_num

-- The text of a number is the text of no other number.
theorem read_text (x : Single) : Single.read x.text = .ok x := by
  cases x
  case nan => decide +kernel
  case num neg code =>
    by_cases h : code.val = Format.single.top
    case pos =>
      have : code = ⟨Format.single.top, Nat.lt_succ_self _⟩ := Fin.ext h
      rw [this]
      cases neg <;> decide +kernel
    case neg =>
      have hl : code.val < Format.single.top := Nat.lt_of_le_of_ne (Nat.le_of_lt_succ code.isLt) h
      simp only [Binary.text, if_neg h]
      exact read_magnitudeText hl

-- Equal numbers have the same sign and code, so not even the signs of the zeros are lost.
theorem read_text_and_text_eq_iff (x : Single) :
    Single.read x.text = .ok x ∧ ∀ y : Single, x.text = y.text ↔ x = y := by
  refine ⟨read_text x, fun y => ⟨fun h => ?_, congrArg Binary.text⟩⟩
  have hx := read_text x
  rw [h, read_text y] at hx
  exact (Except.ok.inj hx).symm

theorem read_ofInt {n : Int} (h : n.natAbs < 2 ^ 53) :
    Single.read (Text.ofInt n) = .ok (.ofInt n) := by
  have := read_ofNat (n < 0) h
  rwa [signed, ite_cond_congr (decide_eq_true_eq ..)] at this

end Single
end MemoBase
