import MemoBase.Proofs.Number.Rounding

namespace MemoBase.Format

variable {F : Format} {q : Rat} {code k L : Nat} {e : Int}

section Levels

theorem binadeSize_eq : F.binadeSize = 2 ^ F.fracBits := by
  simp [binadeSize, Nat.shiftLeft_eq]

theorem binadeSize_pos : 0 < F.binadeSize := by
  simp [binadeSize_eq]

theorem spacing_pos (L : Nat) : 0 < F.spacing L :=
  zpow_pos (by norm_num) _

theorem spacing_succ (L : Nat) : F.spacing (L + 1) = 2 * F.spacing L := by
  rw [spacing, spacing, mul_comm, ← zpow_add_one₀ (by norm_num)]
  push_cast
  ring_nf

theorem binadeSize_mul_spacing (L : Nat) :
    (F.binadeSize : Rat) * F.spacing L = (2 : Rat) ^ (F.fracBits + F.minExp + L) := by
  rw [binadeSize_eq, spacing, Nat.cast_pow, Nat.cast_ofNat, ← zpow_natCast,
    ← zpow_add₀ (by norm_num)]
  ring_nf

-- The numbers of units that belong to a level. Only the lowest level begins at zero.
structure IsUnits (F : Format) (L k : Nat) : Prop where
  lt : k < 2 * F.binadeSize
  le : L = 0 ∨ F.binadeSize ≤ k

theorem level_add (h : F.IsUnits L k) : F.level (L * F.binadeSize + k) = L := by
  have hp := F.binadeSize_pos
  rw [level, Nat.add_comm, Nat.add_mul_div_right _ _ hp]
  have hu : k / F.binadeSize < 2 := (Nat.div_lt_iff_lt_mul hp).mpr h.lt
  cases h.le
  case inl h => omega
  case inr h =>
    have : 1 ≤ k / F.binadeSize := (Nat.le_div_iff_mul_le hp).mpr (by omega)
    omega

theorem exact_add (h : F.IsUnits L k) : F.exact (L * F.binadeSize + k) = k * F.spacing L := by
  rw [exact, level_add h, Nat.add_sub_cancel_left]

-- One unit above the last is the first number of the next level.
theorem exact_carry : F.exact (L * F.binadeSize + 2 * F.binadeSize) =
    (2 * F.binadeSize : Nat) * F.spacing L := by
  have h : F.IsUnits (L + 1) F.binadeSize := ⟨by have := F.binadeSize_pos; omega, .inr le_rfl⟩
  have he := exact_add h
  rw [spacing_succ] at he
  rw [show L * F.binadeSize + 2 * F.binadeSize = (L + 1) * F.binadeSize + F.binadeSize by ring, he]
  push_cast
  ring

-- Every code is made up in this way.
theorem exists_units (F : Format) (code : Nat) : ∃ k, F.IsUnits (F.level code) k ∧
    code = F.level code * F.binadeSize + k := by
  have hp := F.binadeSize_pos
  have hl := Nat.div_mul_le_self code F.binadeSize
  have hu := Nat.lt_div_mul_add (a := code) hp
  rw [level]
  generalize code / F.binadeSize = d at *
  cases d
  case zero => exact ⟨code, ⟨by omega, .inl rfl⟩, by simp⟩
  case succ d =>
    rw [Nat.add_sub_cancel]
    rw [Nat.succ_mul] at hl hu
    exact ⟨code - d * F.binadeSize, ⟨by omega, .inr (by omega)⟩, by omega⟩

theorem exists_exact_eq (F : Format) (code : Nat) : ∃ k, F.IsUnits (F.level code) k ∧
    code = F.level code * F.binadeSize + k ∧ F.exact code = k * F.spacing (F.level code) := by
  have ⟨k, hk, hc⟩ := F.exists_units code
  exact ⟨k, hk, hc, (congrArg F.exact hc).trans (exact_add hk)⟩

theorem IsUnits.pos (h : F.IsUnits L k) (hc : 0 < L * F.binadeSize + k) : 0 < k := by
  cases h.le
  case inl hl => simpa [hl] using hc
  case inr hl => exact F.binadeSize_pos.trans_le hl

theorem exact_zero : F.exact 0 = 0 := by
  simp [exact]

theorem exact_pos (h : 0 < code) : 0 < F.exact code := by
  have ⟨k, hk, hc, hx⟩ := F.exists_exact_eq code
  have : 0 < k := hk.pos (hc ▸ h)
  have := F.spacing_pos (F.level code)
  rw [hx]
  positivity

theorem exact_nonneg (code : Nat) : 0 ≤ F.exact code := by
  cases code
  case zero => exact exact_zero.ge
  case succ => exact (exact_pos (Nat.succ_pos _)).le

end Levels

section Nearest

theorem levelOf_eq (hq : 0 < q) (hu : q < 2 * (F.binadeSize * F.spacing L))
    (hl : L = 0 ∨ F.binadeSize * F.spacing L ≤ q) : F.levelOf q = L := by
  rw [binadeSize_mul_spacing] at hu hl
  have hu : binade q < F.fracBits + F.minExp + L + 1 := by
    rw [binade_lt_iff hq, zpow_add_one₀ (by norm_num)]
    linarith
  have hl : L = 0 ∨ F.fracBits + F.minExp + L ≤ binade q := by
    refine hl.imp_right fun h => ?_
    rw [← not_lt, binade_lt_iff hq]
    exact not_lt.mpr h
  rw [levelOf]
  omega

theorem levelOf_bounds (hq : 0 < q) :
    q < 2 * (F.binadeSize * F.spacing (F.levelOf q)) ∧
      (F.levelOf q = 0 ∨ F.binadeSize * F.spacing (F.levelOf q) ≤ q) := by
  have ⟨hl, hu⟩ := binade_bounds hq
  rw [binadeSize_mul_spacing, levelOf, mul_comm, ← zpow_add_one₀ (by norm_num)]
  constructor
  case left  => exact hu.trans_le (zpow_le_zpow_right₀ (by norm_num) (by omega))
  case right =>
    by_cases h : binade q ≤ F.fracBits + F.minExp
    case pos => exact .inl (by omega)
    case neg => exact .inr (hl.trans' (zpow_le_zpow_right₀ (by norm_num) (by omega)))

theorem nearest_eq (hq : 0 < q) : F.nearest q =
    F.levelOf q * F.binadeSize + (roundEven (q / F.spacing (F.levelOf q))).toNat := by
  rw [nearest, if_neg (not_le.mpr hq)]

theorem units_bounds (hq : 0 < q) :
    (roundEven (q / F.spacing (F.levelOf q))).toNat ≤ 2 * F.binadeSize ∧
      (F.levelOf q = 0 ∨ F.binadeSize ≤ (roundEven (q / F.spacing (F.levelOf q))).toNat) := by
  have hp := F.spacing_pos (F.levelOf q)
  have ⟨hu, hl⟩ := F.levelOf_bounds hq
  constructor
  case left =>
    have := roundEven_le (q := q / F.spacing (F.levelOf q)) (n := (2 * F.binadeSize : Nat)) (by
      rw [div_le_iff₀ hp]
      push_cast
      linarith)
    omega
  case right =>
    refine hl.imp_right fun h => ?_
    have := le_roundEven (q := q / F.spacing (F.levelOf q)) (n := F.binadeSize) (by
      rw [le_div_iff₀ hp]
      exact_mod_cast h)
    omega

theorem exact_nearest (hq : 0 < q) : F.exact (F.nearest q) =
    (roundEven (q / F.spacing (F.levelOf q))).toNat * F.spacing (F.levelOf q) := by
  have ⟨hu, hl⟩ := F.units_bounds hq
  rw [nearest_eq hq]
  rcases hu.lt_or_eq with h | h
  case inl => exact exact_add ⟨h, hl⟩
  case inr => rw [h, exact_carry]

theorem abs_exact_nearest_sub_le (hq : 0 < q) :
    |F.exact (F.nearest q) - q| ≤ F.spacing (F.levelOf q) / 2 := by
  rw [exact_nearest hq]
  exact abs_toNat_roundEven_mul_sub_le (F.spacing_pos _) hq.le

theorem nearest_of_units (hq : 0 < q) (hl : F.levelOf q = L)
    (h : |q - k * F.spacing L| < F.spacing L / 2) : F.nearest q = L * F.binadeSize + k := by
  have hp := F.spacing_pos L
  have hr : roundEven (q / F.spacing L) = k := by
    refine roundEven_eq_of_abs_lt ?_
    rw [← mul_lt_mul_iff_left₀ hp, ← abs_of_pos hp, ← abs_mul, abs_of_pos hp, sub_mul,
      div_mul_cancel₀ q hp.ne']
    calc
      |q - ((k : Int) : Rat) * F.spacing L| < F.spacing L / 2 := by exact_mod_cast h
      _ = _ := by ring
  rw [nearest_eq hq, hl, hr, Int.toNat_natCast]

-- A quarter of a unit leaves room for the smaller units below a power of two.
theorem nearest_eq_of_abs_lt (hq : 0 < q) (h : |q - F.exact code| < F.spacing (F.level code) / 4) :
    F.nearest q = code := by
  have ⟨k, hk, hc⟩ := F.exists_units code
  have hp := F.spacing_pos (F.level code)
  rw [hc, exact_add hk, ← hc] at h
  rw [hc]
  generalize F.level code = L at *
  have ⟨hl, hu⟩ := abs_lt.mp h
  have hs : (1 : Rat) ≤ F.binadeSize := by exact_mod_cast F.binadeSize_pos
  have hk' : (k : Rat) + 1 ≤ 2 * F.binadeSize := by exact_mod_cast hk.lt
  by_cases hb : L = 0 ∨ F.binadeSize * F.spacing L ≤ q
  case pos =>
    have : q < 2 * (F.binadeSize * F.spacing L) := by nlinarith
    exact nearest_of_units hq (levelOf_eq hq this hb) (by linarith)
  case neg =>
    simp only [not_or, not_le] at hb
    cases L
    case zero => exact absurd rfl hb.left
    case succ L =>
      have hn : (k : Rat) < F.binadeSize + 1 := by nlinarith
      have hn : k = F.binadeSize := by
        have := hk.le
        norm_cast at hn
        omega
      have hb := hb.right
      have hp := F.spacing_pos L
      rw [hn, spacing_succ] at h hl
      rw [spacing_succ] at hb
      have hlow : F.binadeSize * F.spacing L ≤ q := by nlinarith
      have hunit : |q - (2 * F.binadeSize : Nat) * F.spacing L| < F.spacing L / 2 := by
        push_cast
        calc
          _ = |q - F.binadeSize * (2 * F.spacing L)| := by ring_nf
          _ < 2 * F.spacing L / 4 := h
          _ = _ := by ring
      rw [nearest_of_units hq (levelOf_eq hq (by linarith) (.inr hlow)) hunit, hn]
      ring

theorem nearest_exact (h : 0 < code) : F.nearest (F.exact code) = code := by
  refine nearest_eq_of_abs_lt (exact_pos h) ?_
  have := F.spacing_pos (F.level code)
  simpa

theorem exact_inj {code' : Nat} (h : F.exact code = F.exact code') : code = code' := by
  rcases Nat.eq_zero_or_pos code with hc | hc <;> rcases Nat.eq_zero_or_pos code' with hc' | hc'
  case inl.inl => rw [hc, hc']
  case inr.inr => rw [← F.nearest_exact hc, h, F.nearest_exact hc']
  case inl.inr =>
    rw [hc, exact_zero] at h
    exact absurd h (exact_pos hc').ne
  case inr.inl =>
    rw [hc', exact_zero] at h
    exact absurd h (exact_pos hc).ne'

end Nearest

section Bounds

theorem spacing_le {L' : Nat} (h : L ≤ L') : F.spacing L ≤ F.spacing L' :=
  zpow_le_zpow_right₀ (by norm_num) (by omega)

theorem exact_lt (F : Format) (code : Nat) :
    F.exact code < 2 * (F.binadeSize * F.spacing (F.level code)) := by
  have ⟨k, hk, _, hx⟩ := F.exists_exact_eq code
  have hp := F.spacing_pos (F.level code)
  have hu : (k : Rat) < 2 * F.binadeSize := by exact_mod_cast hk.lt
  calc
    F.exact code = k * F.spacing (F.level code) := hx
    _ < 2 * F.binadeSize * F.spacing (F.level code) := by gcongr
    _ = _ := mul_assoc ..

theorem spacing_le_exact (h : 0 < code) : F.spacing (F.level code) ≤ F.exact code := by
  have ⟨k, hk, hc, hx⟩ := F.exists_exact_eq code
  have hp := F.spacing_pos (F.level code)
  have hu : (1 : Rat) ≤ k := by exact_mod_cast hk.pos (hc ▸ h)
  rw [hx]
  exact le_mul_of_one_le_left hp.le hu

theorem exact_lt_of_lt (h : code < (L + 2) * F.binadeSize) :
    F.exact code < 2 * (F.binadeSize * F.spacing L) := by
  have ⟨k, hk, hc⟩ := F.exists_units code
  have hl : F.level code ≤ L := by
    by_contra hl
    have hs := Nat.mul_le_mul_right F.binadeSize (not_le.mp hl)
    have := hk.le
    simp only [Nat.succ_mul] at hs h
    omega
  have := F.spacing_le hl
  exact (F.exact_lt code).trans_le (by gcongr)

theorem nearest_le_of_lt (hq : 0 < q) (h : q < 2 * (F.binadeSize * F.spacing L)) :
    F.nearest q ≤ (L + 2) * F.binadeSize := by
  have ⟨hu, _⟩ := F.units_bounds hq
  have hl : F.levelOf q ≤ L := by
    by_contra hl
    rcases (F.levelOf_bounds hq).right with h' | h'
    case inl => omega
    case inr =>
      have hs := F.spacing_le (not_le.mp hl)
      have : F.binadeSize * F.spacing (L + 1) ≤ q := h'.trans' (by gcongr)
      rw [spacing_succ] at this
      linarith
  have := Nat.mul_le_mul_right F.binadeSize hl
  rw [nearest_eq hq, Nat.add_mul]
  omega

-- Multiples of the unit are hit exactly.
theorem exact_nearest_of_units (hq : 0 < q) (h : q = k * F.spacing (F.levelOf q)) :
    F.exact (F.nearest q) = q := by
  have hp := F.spacing_pos (F.levelOf q)
  have : q / F.spacing (F.levelOf q) = (k : Int) := by
    rw [div_eq_iff hp.ne', Int.cast_natCast]
    exact h
  rw [exact_nearest hq, this, roundEven_intCast, Int.toNat_natCast, ← h]

end Bounds
end MemoBase.Format
