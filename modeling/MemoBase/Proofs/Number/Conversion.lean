import MemoBase.Proofs.Number.Format

namespace MemoBase

variable {F G : Format} {q : Rat} {n : Nat} {neg : Bool}

namespace Format

@[simp]
theorem nearest_zero : F.nearest 0 = 0 := by
  simp [nearest]

@[simp]
theorem nearest_exact_self (code : Nat) : F.nearest (F.exact code) = code := by
  cases code
  case zero => rw [exact_zero, nearest_zero]
  case succ => exact nearest_exact (Nat.succ_pos _)

-- Numbers of few enough bits are not rounded.
theorem exact_nearest_mul_zpow {k : Nat} {e : Int} (hk : 0 < k) (hu : k < 2 ^ (F.fracBits + 1))
    (he : F.minExp ≤ e) : F.exact (F.nearest (k * (2 : Rat) ^ e)) = k * 2 ^ e := by
  have hq : (0 : Rat) < k * 2 ^ e := by positivity
  have hb : binade (k * 2 ^ e) < (F.fracBits + 1 : Nat) + e := by
    rw [binade_lt_iff hq, zpow_add₀ (by norm_num), zpow_natCast]
    gcongr
    exact_mod_cast hu
  obtain ⟨j, hj⟩ : ∃ j : Nat, e = j + (F.minExp + F.levelOf (k * 2 ^ e)) := by
    refine ⟨(e - (F.minExp + F.levelOf (k * 2 ^ e))).toNat, ?_⟩
    rw [levelOf]
    omega
  refine exact_nearest_of_units (k := k * 2 ^ j) hq ?_
  conv_lhs => rw [hj, zpow_add₀ (by norm_num), zpow_natCast]
  rw [spacing, Nat.cast_mul, Nat.cast_pow, Nat.cast_ofNat, mul_assoc]

theorem exact_nearest_natCast (hn : 0 < n) (hu : n < 2 ^ (F.fracBits + 1)) (hm : F.minExp ≤ 0) :
    F.exact (F.nearest n) = n := by
  simpa using exact_nearest_mul_zpow hn hu hm

theorem double_exact_nearest (code : Nat) :
    double.exact (double.nearest (single.exact code)) = single.exact code := by
  rcases Nat.eq_zero_or_pos code with rfl | hc
  case inl => simp [exact_zero]
  case inr =>
    have ⟨k, hk, he, hx⟩ := single.exists_exact_eq code
    have hu : single.binadeSize = 2 ^ 23 := binadeSize_eq
    have hl := hk.lt
    rw [hx, spacing]
    refine exact_nearest_mul_zpow (hk.pos (he ▸ hc)) ?_ ?_
    all_goals simp only [single, double] at *
    all_goals omega

theorem single_exact_lt {code : Nat} (h : code < single.top) : single.exact code < 2 ^ 128 := by
  have := exact_lt_of_lt (F := single) (L := 253) (h.trans_eq (by decide))
  rw [binadeSize_mul_spacing] at this
  refine this.trans_eq ?_
  simp [single]
  norm_num

theorem double_nearest_lt (hq : 0 < q) (h : q < 2 ^ 129) : double.nearest q < double.top := by
  have := nearest_le_of_lt (F := double) (L := 1150) hq (by
    rw [binadeSize_mul_spacing]
    refine h.trans_eq ?_
    simp [double]
    norm_num)
  exact this.trans_lt (by decide)

theorem single_exact_lt_units (code : Nat) :
    single.exact code < 2 ^ 24 * single.spacing (single.level code) := by
  refine (single.exact_lt code).trans_eq ?_
  rw [binadeSize_eq]
  simp only [single]
  push_cast
  ring

-- The units of the doubles near a single are far smaller than its own.
theorem double_spacing_le (code : Nat) (hq : 0 < q) (h : q ≤ 2 * single.exact code) :
    double.spacing (double.levelOf q) ≤ single.spacing (single.level code) / 2 ^ 20 := by
  have hu := single_exact_lt_units code
  have hp := single.spacing_pos (single.level code)
  rcases (levelOf_bounds (F := double) hq).right with hl | hl
  case inl =>
    have h0 := single.spacing_le (Nat.zero_le (single.level code))
    have : double.spacing 0 ≤ single.spacing 0 / 2 ^ 20 := by
      simp only [spacing, double, single]
      rw [le_div_iff₀ (by norm_num), ← zpow_natCast, ← zpow_add₀ (by norm_num)]
      exact zpow_le_zpow_right₀ (by norm_num) (by norm_num)
    rw [hl]
    linarith
  case inr =>
    have hs : (double.binadeSize : Rat) = 2 ^ 52 := by
      rw [binadeSize_eq]
      norm_num [double]
    rw [hs] at hl
    linarith

end Format

namespace Binary

@[simp]
theorem ofRat_exact (code : Fin (F.top + 1)) : ofRat neg (F.exact code) = num neg code := by
  simp only [ofRat, Format.nearest_exact_self]
  congr
  omega

theorem convert_ofRat (h : F.nearest q < F.top) :
    (ofRat neg q : Binary F).convert G = ofRat neg (F.exact (F.nearest q)) := by
  simp [ofRat, convert, Nat.min_eq_right h.le, h.ne]

-- Integers that a double holds are rounded once only.
theorem convert_ofRat_natCast (hn : n < 2 ^ 53) :
    (ofRat neg n : Double).convert .single = ofRat neg n := by
  cases n
  case zero => cases neg <;> decide +kernel
  case succ n =>
    have hd : Format.double.nearest (n + 1 : Nat) < Format.double.top := by
      refine Format.double_nearest_lt (by exact_mod_cast Nat.succ_pos n) ?_
      exact_mod_cast hn.trans (by norm_num)
    rw [convert_ofRat hd, Format.exact_nearest_natCast (Nat.succ_pos n) hn (by decide)]

-- The sign is passed on and has no other effect.
theorem exists_convert_ofRat (F G : Format) (q : Rat) :
    ∃ code, ∀ neg, (ofRat neg q : Binary F).convert G = num neg code := by
  by_cases h : min F.top (F.nearest q) = F.top
  case pos => exact ⟨⟨G.top, Nat.lt_succ_self _⟩, fun neg => by simp [ofRat, convert, h, infinite]⟩
  case neg =>
    let code := G.nearest (F.exact (min F.top (F.nearest q)))
    refine ⟨⟨min G.top code, Nat.lt_succ_of_le (Nat.min_le_left ..)⟩, fun neg => ?_⟩
    simp [ofRat, convert, h, code]

@[simp]
theorem convert_convert (x : Single) : (x.convert .double).convert .single = x := by
  cases x
  case nan => rfl
  case num neg code =>
    rw [convert]
    split
    case isTrue h =>
      have : code = ⟨Format.single.top, Nat.lt_succ_self _⟩ := Fin.ext h
      rw [this]
      rfl
    case isFalse h =>
      have hd : Format.double.nearest (Format.single.exact code) < Format.double.top := by
        rcases Nat.eq_zero_or_pos code.val with hc | hc
        case inl =>
          rw [hc, Format.exact_zero, Format.nearest_zero]
          decide
        case inr =>
          refine Format.double_nearest_lt (Format.exact_pos hc) ?_
          have := Format.single_exact_lt (by omega : code.val < Format.single.top)
          linarith
      rw [convert_ofRat hd, Format.double_exact_nearest, ofRat_exact]

end Binary
end MemoBase
