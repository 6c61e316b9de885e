import Mathlib.Data.List.DropRight
import Mathlib.Data.Nat.Digits.Defs
import MemoBase.Proofs.Number.Notation

namespace MemoBase

open Text

-- The number can be written with this many digits and a power of ten.
def HasDigits (n : Nat) (q : Rat) : Prop :=
  ∃ (d : Nat) (e : Int), d < 10 ^ n ∧ q = d * (10 : Rat) ^ e

namespace Digits

-- The number that digits denote, most significant first.
def value (ds : List Nat) : Nat :=
  Nat.ofDigits 10 ds.reverse

-- Zeros at either end do not count.
def trim (ds : List Nat) : List Nat :=
  (ds.dropWhile (· == 0)).rdropWhile (· == 0)

end Digits

namespace Text

-- The digits in front of an exponent.
def figures (s : Text) : List Nat :=
  (s.takeWhile fun c => c != 'e' && c != 'E').filterMap digitValue?

def significant (s : Text) : List Nat :=
  Digits.trim s.figures

end Text

variable {s t w : Text} {c : Char} {ds : List Nat} {d n : Nat} {e : Int} {q : Rat} {neg : Bool}

theorem HasDigits.mono {n' : Nat} (h : HasDigits n q) (hn : n ≤ n') : HasDigits n' q :=
  have ⟨d, e, hd, hq⟩ := h
  ⟨d, e, hd.trans_le (Nat.pow_le_pow_right (by decide) hn), hq⟩

-- An integer next to a decimal with a fraction has no more digits.
theorem HasDigits.natCast {N : Nat} (h : HasDigits n q) (hq : 0 < q) (hN : |N - q| < 1) :
    HasDigits n N := by
  obtain ⟨d, e, hd, rfl⟩ := h
  have ⟨hl, hu⟩ := abs_lt.mp hN
  by_cases he : 0 ≤ e
  case pos =>
    obtain ⟨i, rfl⟩ := Int.eq_ofNat_of_zero_le he
    rw [zpow_natCast] at hl hu
    have hl : ((d * 10 ^ i : Nat) : Rat) < N + 1 := by push_cast; linarith
    have hu : (N : Rat) < (d * 10 ^ i : Nat) + 1 := by push_cast; linarith
    norm_cast at hl hu
    exact ⟨d, i, hd, by rw [show N = d * 10 ^ i by omega]; push_cast; rfl⟩
  case neg =>
    have hp : 0 < d := Nat.pos_of_ne_zero fun hz => by simp [hz] at hq
    have : (d : Rat) * 10 ^ e ≤ d * 10 ^ (-1 : Int) := by
      gcongr
      · norm_num
      · omega
    rw [zpow_neg_one] at this
    have : (N * 10 : Nat) < ((d + 10 : Nat) : Rat) := by
      push_cast
      linarith
    norm_cast at this
    exact ⟨N, 0, by omega, by simp⟩

theorem HasDigits.ne_zero (h : HasDigits n q) (hq : 0 < q) : n ≠ 0 := by
  rintro rfl
  obtain ⟨d, e, hd, rfl⟩ := h
  simp [show d = 0 by omega] at hq

namespace Digits

theorem value_append (ds ds' : List Nat) :
    value (ds ++ ds') = value ds * 10 ^ ds'.length + value ds' := by
  rw [value, List.reverse_append, Nat.ofDigits_append, List.length_reverse, ← value, ← value]
  ring

theorem value_of_zeros (h : ∀ d ∈ ds, (d == 0) = true) : value ds = 0 := by
  have : ds.reverse = List.replicate ds.reverse.length 0 :=
    List.eq_replicate_of_mem fun d hd => beq_iff_eq.mp (h d (List.mem_reverse.mp hd))
  rw [value, this, Nat.ofDigits_replicate_zero]

theorem exists_value_trim (ds : List Nat) : ∃ k, value ds = value (trim ds) * 10 ^ k := by
  refine ⟨((ds.dropWhile (· == 0)).rtakeWhile (· == 0)).length, ?_⟩
  have hl : value (ds.takeWhile (· == 0)) = 0 :=
    value_of_zeros fun _ => List.mem_takeWhile_imp
  have hr : value ((ds.dropWhile (· == 0)).rtakeWhile (· == 0)) = 0 :=
    value_of_zeros fun _ => List.mem_rtakeWhile_imp
  have hd := value_append (ds.takeWhile (· == 0)) (ds.dropWhile (· == 0))
  have ht := value_append (trim ds) ((ds.dropWhile (· == 0)).rtakeWhile (· == 0))
  rw [List.takeWhile_append_dropWhile, hl] at hd
  rw [trim, List.rdropWhile_append_rtakeWhile, hr] at ht
  rw [hd, ht, trim]
  ring

structure IsTrimmed (ds : List Nat) : Prop where
  lt : ∀ d ∈ ds, d < 10
  head : ∀ d ∈ ds.head?, d ≠ 0
  last : ∀ d ∈ ds.getLast?, d ≠ 0

theorem isTrimmed_trim (h : ∀ d ∈ ds, d < 10) : IsTrimmed (trim ds) where
  lt d hd := h d <| (List.dropWhile_suffix _).mem <| (List.rdropWhile_prefix _ _).mem hd
  head d hd := by
    obtain ⟨r, hr⟩ := List.rdropWhile_prefix (· == 0) (ds.dropWhile (· == 0))
    have hn := List.head?_dropWhile_not (· == 0) ds
    rw [← hr, List.head?_append, ← trim, Option.mem_def.mp hd] at hn
    simpa using hn
  last d hd := by
    have hn : trim ds ≠ [] := by
      rintro hn
      simp [hn] at hd
    have := List.rdropWhile_last_not (· == 0) _ hn
    rw [List.getLast?_eq_some_getLast hn] at hd
    cases hd
    exact mt beq_iff_eq.mpr this

theorem value_singleton (d : Nat) : value [d] = d := by
  simp [value]

theorem IsTrimmed.pow_le_value {ds : List Nat} (h : IsTrimmed (d :: ds)) :
    10 ^ ds.length ≤ value (d :: ds) := by
  have hd : 0 < d := Nat.pos_of_ne_zero (h.head d rfl)
  have hv := value_append [d] ds
  rw [List.singleton_append, value_singleton] at hv
  rw [hv]
  exact (Nat.le_mul_of_pos_left _ hd).trans (Nat.le_add_right ..)

theorem IsTrimmed.value_mod (h : IsTrimmed (ds ++ [d])) : value (ds ++ [d]) % 10 ≠ 0 := by
  have hl := h.last d (by simp)
  have hd := h.lt d (by simp)
  rw [value_append, value_singleton, List.length_singleton]
  omega

-- A number with fewer digits in front of another power of ten would end with a zero.
theorem IsTrimmed.value_le {e' : Int} (h : IsTrimmed ds)
    (he : value ds * (10 : Rat) ^ e = d * (10 : Rat) ^ e') : value ds ≤ d := by
  have hp : (10 : Rat) ^ e' ≠ 0 := by positivity
  have hp' : (10 : Rat) ^ e ≠ 0 := by positivity
  rcases le_or_gt e' e with hle | hlt
  case inl =>
    obtain ⟨k, rfl⟩ := Int.le.dest hle
    rw [zpow_add₀ (by norm_num), zpow_natCast, mul_left_comm, mul_comm (d : Rat),
      mul_right_inj' hp] at he
    have he : value ds * 10 ^ k = d := by exact_mod_cast he
    exact he ▸ Nat.le_mul_of_pos_right _ (by positivity)
  case inr =>
    obtain ⟨k, rfl⟩ := Int.lt.dest hlt
    rw [zpow_add₀ (by norm_num), zpow_natCast, mul_left_comm, mul_comm (value ds : Rat),
      mul_right_inj' hp'] at he
    have he : value ds = d * 10 ^ (k + 1) := by exact_mod_cast he
    cases ds using List.reverseRecOn
    case nil => exact Nat.zero_le _
    case append_singleton ds x =>
      have := h.value_mod
      rw [he, Nat.pow_succ, ← Nat.mul_assoc, Nat.mul_mod_left] at this
      contradiction

theorem IsTrimmed.hasDigits_iff (h : IsTrimmed ds) :
    HasDigits n (value ds * (10 : Rat) ^ e) ↔ ds.length ≤ n := by
  constructor
  case mpr =>
    intro hl
    refine ⟨value ds, e, ?_, rfl⟩
    have := Nat.ofDigits_lt_base_pow_length' (b := 8) (l := ds.reverse) (by simpa using h.lt)
    rw [List.length_reverse] at this
    exact this.trans_le (Nat.pow_le_pow_right (by decide) hl)
  case mp =>
    intro ⟨d, e', hd, he⟩
    have hv := h.value_le he
    cases ds
    case nil => exact Nat.zero_le _
    case cons =>
      exact (Nat.pow_lt_pow_iff_right (by decide)).mp (h.pow_le_value.trans_lt (hv.trans_lt hd))

end Digits

namespace Text

theorem digitValue?_lt (h : digitValue? c = some d) : d < 10 := by
  rw [digitValue?] at h
  split at h
  case isTrue =>
    obtain ⟨hc, h⟩ := Option.ite_none_right_eq_some.mp h
    simp only [Char.isDigit_iff_toNat, Char.reduceToNat] at hc
    cases h
    omega
  case isFalse =>
    obtain ⟨z, _, h⟩ := List.exists_of_findSome?_eq_some h
    simp only [Option.ite_none_right_eq_some, Bool.and_eq_true, decide_eq_true_eq] at h
    obtain ⟨hc, h⟩ := h
    cases h
    omega

theorem natOfDigits_eq_value (s : Text) : natOfDigits s = Digits.value (s.filterMap digitValue?) := by
  rw [natOfDigits, Digits.value, Nat.ofDigits_eq_foldr,
    ← List.reverse_reverse (s.filterMap digitValue?), List.foldl_reverse, List.reverse_reverse]
  simp only [Nat.cast_id, Nat.add_comm]

theorem figures_append (hw : Numeral.Sign w neg) (hs : Numeral.Significand s q)
    (ht : Numeral.Exponent t e) :
    figures (w ++ (s ++ t)) = s.filterMap digitValue? := by
  have hw' : (∀ c ∈ w, (c != 'e' && c != 'E') = true) ∧ w.filterMap digitValue? = [] := by
    constructor <;> cases hw
    case right.none | right.plus | right.minus => decide
    all_goals simp
  have hd : ∀ c, isDigit c → (c != 'e' && c != 'E') = true := by
    intro c hc
    rw [Bool.and_eq_true, bne_iff_ne, bne_iff_ne]
    constructor <;> (rintro rfl; exact absurd hc (by decide))
  have hs' : ∀ c ∈ s, (c != 'e' && c != 'E') = true := by
    cases hs
    case whole ds _         => exact fun c hc => hd c (ds c hc)
    case point ds fs hds hfs _ =>
      rw [List.forall_mem_append, List.forall_mem_cons]
      exact ⟨fun c hc => hd c (hds c hc), by decide, fun c hc => hd c (hfs c hc)⟩
  have ht' : Stops (fun c => c != 'e' && c != 'E') t := by
    cases ht
    case none => exact .nil
    case written hc _ _ _ => rcases hc with rfl | rfl <;> simp
  rw [figures, ← List.append_assoc, takeWhile_append (List.forall_mem_append.mpr ⟨hw'.left, hs'⟩) ht',
    List.filterMap_append, hw'.right, List.nil_append]

end Text

theorem Numeral.Significand.exists_value (h : Significand s q) :
    ∃ e : Int, q = Digits.value (s.filterMap digitValue?) * (10 : Rat) ^ e := by
  cases h
  case whole ds _ => exact ⟨0, by rw [natOfDigits_eq_value, zpow_zero, mul_one]⟩
  case point ds fs hd hf _ =>
    have hp : (ds ++ '.' :: fs).filterMap digitValue? = (ds ++ fs).filterMap digitValue? := by
      simp [show digitValue? '.' = none by decide]
    refine ⟨-fs.length, ?_⟩
    rw [hp, ← natOfDigits_eq_value, natOfDigits_append hf, zpow_neg, zpow_natCast]
    push_cast
    field_simp

theorem Text.Writes.exists_value (h : s.Writes (.signed neg q)) (hq : 0 < q) :
    ∃ e : Int, q = Digits.value s.figures * (10 : Rat) ^ e := by
  generalize ha : Exact.signed neg q = a at h
  cases h
  case infinite => exact absurd ha Exact.signed_ne_infinite
  case finite w s t neg' r e hw hs ht =>
    obtain ⟨e', rfl⟩ := hs.exists_value
    have ⟨_, hr⟩ := Exact.signed_inj hq (by positivity) ha
    exact ⟨e' + e, by rw [hr, figures_append hw hs ht, mul_assoc, ← zpow_add₀ (by norm_num)]⟩

-- No numeral of the number has fewer significant digits.
theorem Text.Writes.length_significant_le_iff (h : s.Writes (.signed neg q)) (hq : 0 < q) :
    s.significant.length ≤ n ↔ HasDigits n q := by
  obtain ⟨e, rfl⟩ := h.exists_value hq
  obtain ⟨k, hk⟩ := Digits.exists_value_trim s.figures
  have ht : Digits.IsTrimmed s.significant := Digits.isTrimmed_trim fun d hd => by
    obtain ⟨c, _, hc⟩ := List.mem_filterMap.mp hd
    exact digitValue?_lt hc
  rw [hk, Nat.cast_mul, Nat.cast_pow, Nat.cast_ofNat, mul_assoc, ← zpow_natCast,
    ← zpow_add₀ (by norm_num), ← significant, ht.hasDigits_iff]

end MemoBase
