import Mathlib.Order.WithBot
import MemoBase.Proofs.Number.Conversion

namespace MemoBase

variable {F G : Format} {q r : Rat}

theorem roundEven_mono (h : q ≤ r) : roundEven q ≤ roundEven r := by
  have ⟨_, hq⟩ := abs_le.mp (abs_roundEven_sub_le q)
  have ⟨hr, _⟩ := abs_le.mp (abs_roundEven_sub_le r)
  by_contra hc
  have hl : (roundEven r : Rat) + 1 ≤ roundEven q := by exact_mod_cast not_le.mp hc
  -- The two could only change places if they were the same half.
  have : q = r := by linarith
  exact hc (this ▸ le_rfl)

theorem binade_mono (hq : 0 < q) (h : q ≤ r) : binade q ≤ binade r := by
  by_contra hc
  have hl := (binade_bounds hq).left
  have hu := (binade_lt_iff (hq.trans_le h)).mp (not_le.mp hc)
  linarith

namespace Format

theorem levelOf_mono (hq : 0 < q) (h : q ≤ r) : F.levelOf q ≤ F.levelOf r := by
  have := binade_mono hq h
  simp only [levelOf]
  omega

-- A level ends where the next one begins.
theorem nearest_mono (h : q ≤ r) : F.nearest q ≤ F.nearest r := by
  by_cases hq : 0 < q
  case neg =>
    rw [nearest, if_pos (not_lt.mp hq)]
    exact Nat.zero_le _
  case pos =>
    have hr := hq.trans_le h
    have hp := F.spacing_pos (F.levelOf r)
    rw [nearest_eq hq, nearest_eq hr]
    rcases (F.levelOf_mono hq h).lt_or_eq with hl | hl
    case inl =>
      have hq := (F.units_bounds hq).left
      have hr := (F.units_bounds hr).right.resolve_left (by omega)
      have hs := Nat.mul_le_mul_right F.binadeSize (Nat.succ_le_of_lt hl)
      rw [Nat.succ_mul] at hs
      omega
    case inr =>
      have := roundEven_mono (div_le_div_of_nonneg_right h hp.le)
      rw [hl]
      omega

theorem exact_mono (h : code ≤ code') : F.exact code ≤ F.exact code' := by
  by_contra hc
  have hn := F.nearest_mono (not_le.mp hc).le
  rw [nearest_exact_self, nearest_exact_self] at hn
  exact hc (le_antisymm hn h ▸ le_rfl)

theorem top_le_nearest (h : F.exact F.top ≤ q) : F.top ≤ F.nearest q := by
  have := F.nearest_mono h
  rwa [nearest_exact_self] at this

theorem nearest_eq_zero (hq : 0 < q) (h : q < F.spacing 0 / 2) : F.nearest q = 0 := by
  have hs : (1 : Rat) ≤ F.binadeSize := by exact_mod_cast F.binadeSize_pos
  have hp := F.spacing_pos 0
  have hl : F.levelOf q = 0 := levelOf_eq hq (by nlinarith) (.inl rfl)
  have hn : |q - (0 : Nat) * F.spacing 0| < F.spacing 0 / 2 := by
    simpa [abs_of_pos hq] using h
  simpa using nearest_of_units hq hl hn

end Format

-- The numbers without any rounding: the rationals, and one infinite number on either side.
abbrev Exact := WithBot (WithTop Rat)

namespace Exact

def infinite (neg : Bool) : Exact :=
  if neg then ⊥ else ⊤

def finite (q : Rat) : Exact :=
  ((q : WithTop Rat) : Exact)

def signed (neg : Bool) (q : Rat) : Exact :=
  finite (if neg then -q else q)

theorem finite_le_finite : finite q ≤ finite r ↔ q ≤ r := by
  rw [finite, finite, WithBot.coe_le_coe, WithTop.coe_le_coe]

theorem signed_natAbs (n : Int) : signed (n < 0) n.natAbs = finite n := by
  rw [signed, Nat.cast_natAbs, Int.cast_abs]
  congr 1
  by_cases h : n < 0
  case pos => simp [h, abs_of_neg]
  case neg => simp [h, abs_of_nonneg (Int.cast_nonneg (R := Rat) (not_lt.mp h))]

theorem signed_ne_infinite {neg neg' : Bool} : signed neg q ≠ infinite neg' := by
  cases neg <;> cases neg' <;> simp [signed, finite, infinite]

theorem signed_inj {neg neg' : Bool} (hq : 0 < q) (hr : 0 ≤ r) (h : signed neg q = signed neg' r) :
    neg = neg' ∧ q = r := by
  have h := le_antisymm (finite_le_finite.mp h.le) (finite_le_finite.mp h.ge)
  cases neg <;> cases neg' <;> simp only [Bool.false_eq_true, if_true, if_false] at h
  case false.true | true.false => exfalso; linarith
  all_goals exact ⟨rfl, by linarith⟩

end Exact

namespace Binary

variable {x x' : Binary F} {a b : Exact} {neg : Bool}

def denoted? : Binary F → Option Exact
  | nan          => none
  | num neg code => some (if code.val = F.top then .infinite neg else .signed neg (F.exact code))

theorem exists_denoted?_iff : (∃ a, x.denoted? = some a) ↔ x.isNan = false := by
  cases x <;> simp [denoted?, isNan]

-- A finite number other than zero.
theorem exists_code_of_denoted? (h : x.denoted? = some (.signed neg q)) (hq : 0 < q) :
    ∃ code, x = num neg code ∧ 0 < code.val ∧ code.val < F.top ∧ F.exact code = q := by
  cases x
  case nan => contradiction
  case num neg' code =>
    rw [denoted?, Option.some.injEq] at h
    split at h
    case isTrue     => exact absurd h.symm Exact.signed_ne_infinite
    case isFalse ht =>
      obtain ⟨rfl, rfl⟩ := Exact.signed_inj hq (F.exact_nonneg code) h.symm
      refine ⟨code, rfl, Nat.pos_of_ne_zero fun hc => ?_, Nat.lt_of_le_of_ne code.is_le ht, rfl⟩
      rw [hc, Format.exact_zero] at hq
      exact lt_irrefl 0 hq

-- The number that an exact number is rounded to. A zero of either sign may stand for the exact zero.
inductive Rounds : Exact → Binary F → Prop
  | infinite (neg : Bool) : Rounds (.infinite neg) (.infinite neg)
  | finite (neg : Bool) {q : Rat} : 0 ≤ q → Rounds (.signed neg q) (.ofRat neg q)

theorem rank_bounds (x : Binary F) : -(F.top : Int) ≤ x.rank ∧ x.rank ≤ F.top := by
  cases x
  case nan => simp [rank]
  case num neg code =>
    have := code.is_le
    cases neg <;> simp only [rank] <;> omega

theorem rank_infinite : (infinite neg : Binary F).rank = if neg then -(F.top : Int) else F.top := by
  cases neg <;> rfl

theorem rank_ofRat : (ofRat neg q : Binary F).rank =
    if neg then -((min F.top (F.nearest q) : Nat) : Int) else (min F.top (F.nearest q) : Nat) := by
  cases neg <;> rfl

theorem Rounds.isNan (h : Rounds a x) : x.isNan = false := by
  cases h <;> rfl

theorem rank_ofRat_mono {neg' : Bool} (hq : 0 ≤ q) (hr : 0 ≤ r)
    (h : Exact.signed neg q ≤ .signed neg' r) :
    (ofRat neg q : Binary F).rank ≤ (ofRat neg' r : Binary F).rank := by
  rw [Exact.signed, Exact.signed, Exact.finite_le_finite] at h
  rw [rank_ofRat, rank_ofRat]
  cases neg <;> cases neg' <;> simp only [Bool.false_eq_true, if_true, if_false] at h ⊢
  case false.false =>
    have := F.nearest_mono h
    omega
  case true.true =>
    have := F.nearest_mono (neg_le_neg_iff.mp h)
    omega
  case true.false => omega
  case false.true =>
    -- Both are zero, and the sign of a zero has no rank.
    have hq : q = 0 := by linarith
    have hr : r = 0 := by linarith
    simp [hq, hr]

theorem Rounds.rank_mono (hx : Rounds a x) (hy : Rounds b x') (h : a ≤ b) : x.rank ≤ x'.rank := by
  have hl := x.rank_bounds
  have hu := x'.rank_bounds
  cases hx <;> cases hy
  case finite.finite hq _ _ hr => exact rank_ofRat_mono hq hr h
  case infinite.infinite neg neg' =>
    cases neg <;> cases neg' <;> simp_all [Exact.infinite, rank_infinite]
  case infinite.finite neg _ _ _ =>
    cases neg <;> simp_all [Exact.infinite, Exact.signed, Exact.finite, rank_infinite]
  case finite.infinite neg =>
    cases neg <;> simp_all [Exact.infinite, Exact.signed, Exact.finite, rank_infinite]

theorem le_iff : x.le x' ↔ x.isNan = false ∧ x'.isNan = false ∧ x.rank ≤ x'.rank := by
  simp [le, and_assoc]

theorem lt_iff : x.lt x' ↔ x.isNan = false ∧ x'.isNan = false ∧ x.rank < x'.rank := by
  simp [lt, and_assoc]

theorem same_iff : x.same x' ↔ x.isNan = false ∧ x'.isNan = false ∧ x.rank = x'.rank := by
  simp [same, and_assoc]

theorem le_refl (h : x.isNan = false) : x.le x :=
  le_iff.mpr ⟨h, h, le_rfl⟩

theorem lt_eq_false (h : x.le x') : x'.lt x = false := by
  rw [Bool.eq_false_iff, Ne, lt_iff]
  have := (le_iff.mp h).right.right
  omega

theorem same_of_le (h : x.le x') (h' : x'.le x) : x.same x' := by
  rw [le_iff] at h h'
  exact same_iff.mpr ⟨h.left, h.right.left, by omega⟩

theorem lt_eq_not_le (hx : x.isNan = false) (hy : x'.isNan = false) : x.lt x' = !x'.le x := by
  simp only [lt, le, hx, hy, Bool.not_false, Bool.true_and]
  rw [← decide_not, decide_eq_decide, not_le]

theorem same_iff_le : x.same x' ↔ x.le x' ∧ x'.le x := by
  constructor
  case mpr => exact fun ⟨h, h'⟩ => same_of_le h h'
  case mp  =>
    intro h
    have ⟨hx, hy, hr⟩ := same_iff.mp h
    exact ⟨le_iff.mpr ⟨hx, hy, hr.le⟩, le_iff.mpr ⟨hy, hx, hr.ge⟩⟩

theorem Rounds.le (hx : Rounds a x) (hy : Rounds b x') (h : a ≤ b) : x.le x' :=
  le_iff.mpr ⟨hx.isNan, hy.isNan, hx.rank_mono hy h⟩

theorem rounds_convert (h : x.denoted? = some a) : Rounds a (x.convert G) := by
  cases x
  case nan => contradiction
  case num neg code =>
    cases h
    rw [convert]
    split
    case isTrue  => exact .infinite neg
    case isFalse => exact .finite neg (F.exact_nonneg code)

theorem rounds_exact (h : x.denoted? = some a) : Rounds a x := by
  cases x
  case nan => contradiction
  case num neg code =>
    cases h
    split
    case isTrue ht  =>
      have : code = ⟨F.top, Nat.lt_succ_self _⟩ := Fin.ext ht
      exact this ▸ .infinite neg
    case isFalse ht => simpa using Rounds.finite (F := F) neg (F.exact_nonneg code)

section Order

variable (ht : 0 < F.top)

include ht in
-- The two zeros are all that the rank does not tell apart.
theorem denoted?_eq_of_rank_eq (hx : x.isNan = false) (hy : x'.isNan = false)
    (h : x.rank = x'.rank) : x.denoted? = x'.denoted? := by
  cases x <;> cases x'
  case num.num neg code neg' code' =>
    have hz (neg : Bool) (code : Fin (F.top + 1)) (h : code.val = 0) :
        (num neg code).denoted? = some (.finite 0) := by
      cases neg <;> simp [denoted?, h, ht.ne, Format.exact_zero, Exact.signed]
    cases neg <;> cases neg' <;> simp only [rank] at h
    case false.false | true.true => rw [Fin.ext (by omega : code.val = code'.val)]
    case false.true | true.false => rw [hz _ code (by omega), hz _ code' (by omega)]
  all_goals contradiction

include ht in
theorem denoted?_mono (hx : x.denoted? = some a) (hy : x'.denoted? = some b) (h : x.rank ≤ x'.rank) :
    a ≤ b := by
  by_contra hc
  have hr := (rounds_exact hy).rank_mono (rounds_exact hx) (not_le.mp hc).le
  have := denoted?_eq_of_rank_eq ht (rounds_exact hx).isNan (rounds_exact hy).isNan (by omega)
  rw [hx, hy] at this
  exact hc (Option.some.inj this).le

include ht in
theorem convert_mono (h : x.le x') : (x.convert G).le (x'.convert G) := by
  have ⟨hx, hy, hr⟩ := le_iff.mp h
  have ⟨a, ha⟩ := exists_denoted?_iff.mpr hx
  have ⟨b, hb⟩ := exists_denoted?_iff.mpr hy
  exact (rounds_convert ha).le (rounds_convert hb) (denoted?_mono ht ha hb hr)

end Order

-- Singles can be compared as doubles.
theorem convert_le_iff {x y : Single} : (x.convert .double).le (y.convert .double) ↔ x.le y where
  mp h  := by simpa using convert_mono (G := .single) (by decide) h
  mpr h := convert_mono (by decide) h

end Binary
end MemoBase
