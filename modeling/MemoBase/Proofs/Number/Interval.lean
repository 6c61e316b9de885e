import Mathlib.Order.Interval.Set.UnorderedInterval
import MemoBase.Proofs.Number.Order

namespace MemoBase

variable {F : Format} {q r t x : Rat} {i code code' : Nat} {neg : Bool}

namespace Format

theorem pos_of_nearest_pos (h : 0 < F.nearest q) : 0 < q := by
  by_contra hq
  rw [nearest, if_pos (not_lt.mp hq)] at h
  contradiction

theorem levelOf_le_level_nearest (hq : 0 < q) : F.levelOf q ≤ F.level (F.nearest q) := by
  have hp := F.binadeSize_pos
  rcases (F.units_bounds hq).right with h | h
  case inl => omega
  case inr =>
    have : F.levelOf q + 1 ≤ F.nearest q / F.binadeSize := by
      rw [Nat.le_div_iff_mul_le hp, nearest_eq hq, Nat.succ_mul]
      omega
    rw [level]
    omega

theorem abs_exact_nearest_sub_le_spacing (hq : 0 < q) :
    |F.exact (F.nearest q) - q| ≤ F.spacing (F.level (F.nearest q)) / 2 := by
  have := F.spacing_le (F.levelOf_le_level_nearest hq)
  linarith [F.abs_exact_nearest_sub_le hq]

-- Two numbers around one of the format that lie in its level are rounded alike.
theorem exact_nearest_reflect (hx : F.exact (F.nearest x) = x) (hq : 0 < q) (hr : 0 < r)
    (hlq : F.levelOf q = F.levelOf x) (hlr : F.levelOf r = F.levelOf x) (h : q + r = 2 * x) :
    F.exact (F.nearest q) + F.exact (F.nearest r) = 2 * x := by
  have hp := F.spacing_pos (F.levelOf x)
  have hcast {y : Rat} (hy : 0 < y) : ((roundEven (y / F.spacing (F.levelOf x))).toNat : Rat) =
      roundEven (y / F.spacing (F.levelOf x)) := by
    have : 0 ≤ roundEven (y / F.spacing (F.levelOf x)) := le_roundEven (by simpa using by positivity)
    exact_mod_cast Int.toNat_of_nonneg this
  have hx' := hx
  rw [exact_nearest (by linarith), hcast (by linarith)] at hx'
  have hr' : r / F.spacing (F.levelOf x) =
      2 * roundEven (x / F.spacing (F.levelOf x)) - q / F.spacing (F.levelOf x) := by
    rw [eq_sub_iff_add_eq, ← add_div, div_eq_iff hp.ne']
    linarith
  rw [exact_nearest hq, exact_nearest hr, hlq, hlr, hcast hq, hcast hr, hr', roundEven_reflect]
  push_cast
  linarith

-- Below a power of two the numbers are nearer to each other.
def margin (F : Format) (L : Nat) : Rat :=
  F.spacing L / if L = 0 then 2 else 4

theorem margin_bounds (L : Nat) : F.spacing L / 4 ≤ F.margin L ∧ F.margin L ≤ F.spacing L / 2 := by
  have := F.spacing_pos L
  rw [margin]
  split <;> constructor <;> linarith

theorem nearest_eq_of_lt (hq : 0 < q) (hl : F.exact code - F.margin (F.level code) < q)
    (hu : q < F.exact code + F.spacing (F.level code) / 2) : F.nearest q = code := by
  have ⟨k, hk, hc, hx⟩ := F.exists_exact_eq code
  have hp := F.spacing_pos (F.level code)
  by_cases h : F.level code = 0 ∨ F.exact code ≤ q
  case pos =>
    have hm : F.exact code - F.spacing (F.level code) / 2 < q := by
      rcases h with h | h
      case inl => rwa [margin, if_pos h] at hl
      case inr => linarith
    have hk' : (k : Rat) + 1 ≤ 2 * F.binadeSize := by exact_mod_cast hk.lt
    have hq' : q < 2 * (F.binadeSize * F.spacing (F.level code)) := by nlinarith
    have hb : F.level code = 0 ∨ F.binadeSize * F.spacing (F.level code) ≤ q := by
      by_cases h0 : F.level code = 0
      case pos => exact .inl h0
      case neg =>
        have : (F.binadeSize : Rat) ≤ k := by exact_mod_cast hk.le.resolve_left h0
        exact .inr ((h.resolve_left h0).trans' (hx ▸ by gcongr))
    have hn : |q - k * F.spacing (F.level code)| < F.spacing (F.level code) / 2 := by
      rw [← hx, abs_lt]
      constructor <;> linarith
    rw [nearest_of_units hq (levelOf_eq hq hq' hb) hn, ← hc]
  case neg =>
    simp only [not_or, not_le] at h
    rw [margin, if_neg h.left] at hl
    exact nearest_eq_of_abs_lt hq (abs_lt.mpr ⟨by linarith, by linarith⟩)

-- Between two powers of two a number of the format has its neighbours there as well.
theorem binade_add_spacing_le (hc : 0 < code) (h : (2 : Rat) ^ binade (F.exact code) ≠ F.exact code) :
    (2 : Rat) ^ binade (F.exact code) + F.spacing (F.level code) ≤ F.exact code ∧
      F.exact code + F.spacing (F.level code) ≤ (2 : Rat) ^ (binade (F.exact code) + 1) := by
  have ⟨k, hk, _, hx⟩ := F.exists_exact_eq code
  have hp := F.spacing_pos (F.level code)
  have ⟨hl, hu⟩ := binade_bounds (exact_pos (F := F) hc)
  have hs := (binade_lt_iff (exact_pos (F := F) hc)).not.mpr (not_lt.mpr (spacing_le_exact hc))
  obtain ⟨j, hj⟩ := Int.le.dest (not_lt.mp hs)
  have hj (i : Nat) : (2 : Rat) ^ (binade (F.exact code) + i) =
      (2 ^ (j + i) : Nat) * F.spacing (F.level code) := by
    rw [← hj, add_assoc, zpow_add₀ (by norm_num), spacing, mul_comm]
    norm_cast
  have hl := hl.lt_of_ne h
  have hj₀ := hj 0
  have hj₁ := hj 1
  rw [Nat.cast_zero, add_zero, add_zero] at hj₀
  rw [Nat.cast_one] at hj₁
  rw [hj₀] at hl ⊢
  rw [hj₁] at hu ⊢
  rw [hx, mul_lt_mul_iff_left₀ hp] at hl hu
  rw [hx, ← add_one_mul, ← add_one_mul,
    mul_le_mul_iff_left₀ hp, mul_le_mul_iff_left₀ hp]
  exact ⟨by exact_mod_cast hl, by exact_mod_cast hu⟩

theorem levelOf_eq_of_abs_lt {G : Format} (hc : 0 < code)
    (hx : (2 : Rat) ^ binade (F.exact code) ≠ F.exact code)
    (h : |F.exact code - q| < F.spacing (F.level code)) : G.levelOf q = G.levelOf (F.exact code) := by
  have ⟨hl, hu⟩ := binade_add_spacing_le hc hx
  have ⟨hql, hqu⟩ := abs_lt.mp h
  have := binade_eq (q := q) (e := binade (F.exact code)) (by linarith) (by linarith)
  rw [levelOf, levelOf, this]

theorem single_spacing_le_one (h : single.exact code < 2 ^ 24) :
    single.spacing (single.level code) ≤ 1 := by
  have ⟨k, hk, _, hx⟩ := single.exists_exact_eq code
  have hp := single.spacing_pos (single.level code)
  have hs : single.spacing 149 = 1 := by simp [spacing, single]
  by_contra hc
  have hl : 150 ≤ single.level code := by
    by_contra hl
    exact hc (hs ▸ spacing_le (by omega))
  have hk' : (2 ^ 23 : Rat) ≤ k := by exact_mod_cast hk.le.resolve_left (by omega)
  have := spacing_le (F := single) hl
  rw [spacing_succ, hs] at this
  rw [hx] at h
  nlinarith

end Format

namespace Single

-- The code that a magnitude is taken to, by way of a double.
def nearest (q : Rat) : Nat :=
  Format.single.nearest (Format.double.exact (Format.double.nearest q))

theorem nearest_mono (h : q ≤ r) : nearest q ≤ nearest r :=
  Format.nearest_mono (Format.exact_mono (Format.nearest_mono h))

theorem nearest_eq_of_mem_uIcc (hq : nearest q = code) (hr : nearest r = code)
    (ht : t ∈ Set.uIcc q r) : nearest t = code := by
  rcases Set.mem_uIcc.mp ht with ⟨hl, hu⟩ | ⟨hl, hu⟩
  case inl => exact le_antisymm (hr ▸ nearest_mono hu) (hq ▸ nearest_mono hl)
  case inr => exact le_antisymm (hq ▸ nearest_mono hu) (hr ▸ nearest_mono hl)

@[simp]
theorem nearest_exact (code : Nat) : nearest (Format.single.exact code) = code := by
  rw [nearest, Format.double_exact_nearest, Format.nearest_exact_self]

theorem pos_of_nearest_pos (h : 0 < nearest q) :
    0 < Format.double.exact (Format.double.nearest q) ∧ 0 < q := by
  have hd := Format.pos_of_nearest_pos h
  refine ⟨hd, Format.pos_of_nearest_pos (F := .double) (Nat.pos_of_ne_zero fun hn => ?_)⟩
  rw [hn, Format.exact_zero] at hd
  exact lt_irrefl 0 hd

theorem convert_ofRat_eq_iff {code : Fin (Format.single.top + 1)} (ht : code.val < Format.single.top) :
    (Binary.ofRat neg q : Double).convert .single = .num neg code ↔ nearest q = code := by
  by_cases hd : Format.double.nearest q < Format.double.top
  case pos =>
    rw [Binary.convert_ofRat hd, Binary.ofRat, Binary.num.injEq, Fin.ext_iff]
    change _ ∧ min _ (nearest q) = _ ↔ _
    simp only [true_and]
    omega
  case neg =>
    have hn : Format.single.top ≤ nearest q := by
      refine Format.top_le_nearest ((Format.exact_mono (not_lt.mp hd)).trans' ?_)
      decide +kernel
    have : (Binary.ofRat neg q : Double).convert .single = .infinite neg := by
      simp [Binary.ofRat, Binary.convert, Nat.min_eq_left (not_lt.mp hd)]
    rw [this, Binary.infinite, Binary.num.injEq, Fin.ext_iff]
    simp only [true_and]
    omega

-- What the double adds to the half of a spacing is less than `1 / 2 ^ 20` of it.
theorem abs_exact_sub_le_of_le (hc : 0 < nearest q) (h : q ≤ 2 * Format.single.exact (nearest q)) :
    |Format.single.exact (nearest q) - q| ≤
      Format.single.spacing (Format.single.level (nearest q)) * (1 / 2 + 1 / 2 ^ 20) := by
  have ⟨hd, hq⟩ := pos_of_nearest_pos hc
  have hu := Format.double_spacing_le (nearest q) hq h
  have hq := Format.abs_exact_nearest_sub_le (F := .double) hq
  have hs := Format.abs_exact_nearest_sub_le_spacing (F := .single) hd
  have := abs_sub_le (Format.single.exact (nearest q)) (Format.double.exact (Format.double.nearest q)) q
  rw [← nearest] at hs
  have := Format.single.spacing_pos (Format.single.level (nearest q))
  linarith

theorem abs_exact_sub_le (hc : 0 < nearest q) : |Format.single.exact (nearest q) - q| ≤
    Format.single.spacing (Format.single.level (nearest q)) * (1 / 2 + 1 / 2 ^ 20) := by
  refine abs_exact_sub_le_of_le hc ?_
  by_contra h
  have hx := Format.exact_pos (F := .single) hc
  -- Twice the single would be taken to it as well, and is too far away.
  have hn := nearest_eq_of_mem_uIcc (nearest_exact (nearest q)) rfl
    (Set.mem_uIcc_of_le (by linarith) (not_le.mp h).le)
  have := abs_exact_sub_le_of_le (hn.symm ▸ hc) (by rw [hn])
  have hs := Format.spacing_le_exact (F := .single) hc
  rw [hn, abs_sub_comm, abs_of_nonneg (by linarith)] at this
  linarith

theorem nearest_eq_of_lt (hc : 0 < code)
    (hl : Format.single.exact code - Format.single.margin (Format.single.level code) +
      Format.single.spacing (Format.single.level code) / 2 ^ 20 < q)
    (hu : q < Format.single.exact code + Format.single.spacing (Format.single.level code) / 2 -
      Format.single.spacing (Format.single.level code) / 2 ^ 20) : nearest q = code := by
  have hp := Format.single.spacing_pos (Format.single.level code)
  have hs := Format.spacing_le_exact (F := .single) hc
  have ⟨_, hm⟩ := Format.single.margin_bounds (Format.single.level code)
  have hq : 0 < q := by linarith
  have hd := Format.double_spacing_le code hq (by linarith)
  have ⟨hdl, hdu⟩ := abs_le.mp (Format.abs_exact_nearest_sub_le (F := .double) hq)
  exact Format.nearest_eq_of_lt (by linarith) (by linarith) (by linarith)

-- Both roundings are symmetric. At a power of two they are not: its neighbour below is nearer.
theorem nearest_reflect (hc : 0 < code)
    (hx : (2 : Rat) ^ binade (Format.single.exact code) ≠ Format.single.exact code)
    (h : nearest q = code) : nearest (2 * Format.single.exact code - q) = code := by
  have ⟨hd, hq⟩ := pos_of_nearest_pos (h.symm ▸ hc)
  have hqx := abs_exact_sub_le (h.symm ▸ hc)
  have hdx := Format.abs_exact_nearest_sub_le_spacing (F := .single) hd
  rw [← nearest, h] at hdx
  rw [h] at hqx
  have hp := Format.single.spacing_pos (Format.single.level code)
  have hs := Format.spacing_le_exact (F := .single) hc
  have ⟨hql, hqu⟩ := abs_le.mp hqx
  have ⟨hdl, hdu⟩ := abs_le.mp hdx
  have hlevel {G : Format} {r : Rat} (hl : Format.single.exact code - r <
      Format.single.spacing (Format.single.level code)) (hu : r - Format.single.exact code <
      Format.single.spacing (Format.single.level code)) :
      G.levelOf r = G.levelOf (Format.single.exact code) :=
    Format.levelOf_eq_of_abs_lt hc hx (abs_lt.mpr ⟨by linarith, hl⟩)
  have hsum := Format.exact_nearest_reflect (Format.double_exact_nearest code) hq
    (r := 2 * Format.single.exact code - q) (by linarith) (hlevel (by linarith) (by linarith))
    (hlevel (by linarith) (by linarith)) (by ring)
  have hsum := Format.exact_nearest_reflect (F := .single) (by rw [Format.nearest_exact_self]) hd
    (by linarith) (hlevel (by linarith) (by linarith)) (hlevel (by linarith) (by linarith)) hsum
  rw [← nearest, ← nearest, h] at hsum
  exact Format.exact_inj (F := .single) (by linarith)

end Single

-- Nine significant digits are closer than this to the number that they are for.
theorem Binary.convert_ofRat_of_near {code : Fin (Format.single.top + 1)} (hc : 0 < code.val)
    (ht : code.val < Format.single.top)
    (h : |q - Format.single.exact code| ≤ Format.single.exact code / 10 ^ 8) :
    (ofRat neg q : Double).convert .single = num neg code := by
  have hu := Format.single_exact_lt_units code
  have hp := Format.single.spacing_pos (Format.single.level code)
  have ⟨hm, _⟩ := Format.single.margin_bounds (Format.single.level code)
  have ⟨hl, hr⟩ := abs_le.mp h
  exact (Single.convert_ofRat_eq_iff ht).mpr <|
    Single.nearest_eq_of_lt hc (by linarith) (by linarith)

end MemoBase
