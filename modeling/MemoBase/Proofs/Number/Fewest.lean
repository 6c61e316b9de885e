import MemoBase.Proofs.Filter.Coercion
import MemoBase.Proofs.Number.PowersOfTwo

namespace MemoBase

variable {i n : Nat} {q x : Rat} {code : Nat}

theorem getD_find?_range_le {m : Nat} {p : Nat → Bool} (h : m < n → p m) :
    ((List.range n).find? p).getD n ≤ m := by
  cases hf : (List.range n).find? p
  case none =>
    by_contra hm
    have := List.find?_range_eq_none.mp hf m (not_le.mp hm)
    simp [h (not_le.mp hm)] at this
  case some i =>
    obtain ⟨_, hi, hj⟩ := List.find?_range_eq_some.mp hf
    by_contra hm
    have := hj m (not_le.mp hm)
    simp [h ((not_le.mp hm).trans (List.mem_range.mp hi))] at this

namespace Single

-- Elsewhere the decimal is between the other one and its reflection.
theorem nearest_decimal_of_ne_two_zpow (hc : 0 < code)
    (hx : (2 : Rat) ^ binade (Format.single.exact code) ≠ Format.single.exact code)
    (hd : HasDigits (n + 1) q) (hq : nearest q = code) :
    nearest (Decimal.nearest n (Format.single.exact code)).exact = code := by
  have hr := nearest_reflect hc hx hq
  rcases Decimal.exact_nearest_mem_or (Format.exact_pos hc) hd with h | ⟨he, hle, ha⟩ | ⟨he, hle, hb⟩
  case inl     => exact nearest_eq_of_mem_uIcc hq (nearest_exact code) h
  case inr.inl =>
    have hb := Decimal.below_le n (Format.single.exact code)
    exact nearest_eq_of_mem_uIcc hr hq (he ▸ Set.mem_uIcc_of_le (by linarith) (by linarith))
  case inr.inr =>
    have ha := Decimal.lt_above n (Format.single.exact code)
    exact nearest_eq_of_mem_uIcc hq hr (he ▸ Set.mem_uIcc_of_le (by linarith) (by linarith))

theorem nearest_decimal (hc : 0 < code) (ht : code < Format.single.top)
    (hx : ∀ e ∈ ([-96, 87, 90] : List Int), Format.single.exact code ≠ (2 : Rat) ^ e) (hn : n < 8)
    (hd : HasDigits (n + 1) q) (hq : nearest q = code) :
    nearest (Decimal.nearest n (Format.single.exact code)).exact = code := by
  by_cases hp : (2 : Rat) ^ binade (Format.single.exact code) = Format.single.exact code
  case neg => exact nearest_decimal_of_ne_two_zpow hc hp hd hq
  case pos =>
    have hpos := Format.exact_pos (F := .single) hc
    have hu : binade (Format.single.exact code) < 128 :=
      (binade_lt_iff hpos).mpr (Format.single_exact_lt ht)
    have hl : ¬ binade (Format.single.exact code) < -149 := by
      rw [binade_lt_iff hpos, not_lt]
      refine (Format.spacing_le_exact hc).trans' ?_
      exact zpow_le_zpow_right₀ (by norm_num) (by simp [Format.single])
    obtain ⟨i, hi⟩ : ∃ i : Nat, (i : Int) - 149 = binade (Format.single.exact code) :=
      ⟨(binade (Format.single.exact code) + 149).toNat, by omega⟩
    rw [← hi] at hp hu
    exact nearest_decimal_of_two_zpow (by omega) (fun he => hx _ he hp.symm) hn hc hp.symm hd hq

section Display

variable {neg : Bool} {x : Single} {s : Text}

theorem exists_of_read {code : Fin (Format.single.top + 1)} (hc : 0 < code.val)
    (ht : code.val < Format.single.top) (h : Single.read s = .ok (.num neg code)) :
    ∃ q, 0 < q ∧ s.Writes (.signed neg q) ∧ nearest q = code := by
  obtain ⟨a, ha⟩ := exists_writes h rfl
  obtain ⟨y, hy, hs⟩ := read_of_writes ha
  rw [h, Except.ok.injEq] at hs
  cases hy
  case infinite neg' =>
    cases hs
    exact absurd ht (lt_irrefl _)
  case finite neg' q hq =>
    obtain ⟨code', hc'⟩ := Binary.exists_convert_ofRat .double .single q
    obtain ⟨rfl, rfl⟩ := Binary.num.inj (hs.trans (hc' neg'))
    have hn := (convert_ofRat_eq_iff ht).mp hs.symm
    exact ⟨q, (pos_of_nearest_pos (hn ▸ hc)).right, ha, hn⟩

theorem hasMagnitude_toSingle_iff {d : Decimal} (ht : code < Format.single.top) :
    d.toSingle.hasMagnitude (Format.single.exact code) ↔ nearest d.exact = code := by
  obtain ⟨code', hc⟩ := Binary.exists_convert_ofRat .double .single d.exact
  have h : d.toSingle = .num false ⟨code, Nat.lt_succ_of_lt ht⟩ ↔ nearest d.exact = code :=
    convert_ofRat_eq_iff ht
  rw [← h, Decimal.toSingle, hc, Binary.hasMagnitude, Binary.num.injEq, Fin.ext_iff, decide_eq_true_eq]
  constructor
  case mp  => exact fun h => ⟨rfl, Format.exact_inj h.right⟩
  case mpr =>
    rintro ⟨_, h⟩
    exact ⟨by simp only at h; omega, by rw [h]⟩

theorem writes_ofNat (neg : Bool) (N : Nat) :
    (Text.signed neg (Text.ofNat N)).Writes (.signed neg N) := by
  have h : Numeral.read (Text.signed neg (Text.ofNat N)) = .ok (.finite neg N 0) :=
    Numeral.read_signed_ofNat
  have := Numeral.writes_of_read h rfl
  rwa [zpow_zero, mul_one] at this

theorem writes_text (neg : Bool) (d : Decimal) :
    (Text.signed neg d.text).Writes (.signed neg d.exact) := by
  have ⟨digits, e, hr, hd⟩ := d.text_reads neg
  exact hd ▸ Numeral.writes_of_read hr rfl

-- Apart from three powers of two no numeral that is taken to a magnitude has fewer digits than its text.
theorem length_significant_magnitudeText_le (hc : 0 < code) (ht : code < Format.single.top)
    (hx : ∀ e ∈ ([-96, 87, 90] : List Int), Format.single.exact code ≠ (2 : Rat) ^ e)
    (hd : HasDigits n q) (hq : nearest q = code) :
    (Text.signed neg (Binary.magnitudeText (Format.single.exact code))).significant.length ≤ n := by
  have hp := Format.exact_pos (F := .single) hc
  have hqp := (pos_of_nearest_pos (hq ▸ hc)).right
  rw [Binary.magnitudeText]
  split
  case isTrue h =>
    have hN : ((Format.single.exact code).num.natAbs : Rat) = Format.single.exact code := by
      rw [num_natAbs_eq_mul_den hp, h.left, Nat.cast_one, mul_one]
    rw [(writes_ofNat neg _).length_significant_le_iff (hN ▸ hp)]
    refine hd.natCast hqp ?_
    rw [hN]
    have hr := abs_exact_sub_le (hq ▸ hc)
    rw [hq] at hr
    linarith [Format.single_spacing_le_one (h.right.trans_eq (by norm_num))]
  case isFalse h =>
    simp only
    rw [(writes_text neg _).length_significant_le_iff (Decimal.exact_nearest_pos _ hp)]
    obtain ⟨m, rfl⟩ := Nat.exists_eq_succ_of_ne_zero (hd.ne_zero hqp)
    refine (Decimal.hasDigits_nearest _ hp).mono (Nat.succ_le_succ (getD_find?_range_le fun hm => ?_))
    exact (hasMagnitude_toSingle_iff ht).mpr (nearest_decimal hc ht hx hm hd hq)

theorem exists_shorter_of_two_zpow {code : Fin (Format.single.top + 1)} {e : Int}
    (he : e ∈ ([-96, 87, 90] : List Int)) (h : Format.single.exact code = (2 : Rat) ^ e) :
    ∃ s, Single.read s = .ok (.num neg code) ∧
      s.significant.length < (Binary.num neg code : Single).text.significant.length := by
  simp only [List.mem_cons, List.not_mem_nil, or_false] at he
  rcases he with rfl | rfl | rfl
  case inl =>
    obtain rfl : code = ⟨260046848, by decide⟩ :=
      Fin.ext (Format.exact_inj (h.trans (by decide +kernel)))
    exact ⟨Text.signed neg "12621775e-36".toList, by cases neg <;> decide +kernel⟩
  case inr.inl =>
    obtain rfl : code = ⟨1795162112, by decide⟩ :=
      Fin.ext (Format.exact_inj (h.trans (by decide +kernel)))
    exact ⟨Text.signed neg "15474251e19".toList, by cases neg <;> decide +kernel⟩
  case inr.inr =>
    obtain rfl : code = ⟨1820327936, by decide⟩ :=
      Fin.ext (Format.exact_inj (h.trans (by decide +kernel)))
    exact ⟨Text.signed neg "12379401e20".toList, by cases neg <;> decide +kernel⟩

-- Only three magnitudes have a numeral with fewer significant digits than their text.
theorem exists_shorter_iff (hx : x.denoted? = some (.signed neg q)) (hq : 0 < q) :
    (∃ s, Single.read s = .ok x ∧ s.significant.length < x.text.significant.length) ↔
      ∃ e ∈ ([-96, 87, 90] : List Int), q = (2 : Rat) ^ e := by
  obtain ⟨code, rfl, hc, ht, rfl⟩ := Binary.exists_code_of_denoted? hx hq
  constructor
  case mpr => exact fun ⟨e, he, h⟩ => exists_shorter_of_two_zpow he h
  case mp  =>
    rintro ⟨s, hs, hl⟩
    by_contra hx
    obtain ⟨q, hq, hw, hn⟩ := exists_of_read hc ht hs
    have hd := (hw.length_significant_le_iff hq).mp le_rfl
    refine absurd hl (not_lt.mpr ?_)
    rw [Binary.text, if_neg ht.ne]
    exact length_significant_magnitudeText_le hc ht (fun e he h => hx ⟨e, he, h⟩) hd hn

-- The single next to a tenth has none, and the negative of a large power of two has one.
theorem exists_shorter_iff_tenth :
    (¬ ∃ s, Single.read s = .ok (.num false 0x3DCCCCCD) ∧
      s.significant.length < (Binary.num false 0x3DCCCCCD : Single).text.significant.length) ∧
    ∃ s, Single.read s = .ok (.num true 1795162112) ∧
      s.significant.length < (Binary.num true 1795162112 : Single).text.significant.length := by
  constructor
  case left  =>
    exact (exists_shorter_iff rfl (Format.exact_pos (by decide))).not.mpr (by decide +kernel)
  case right =>
    exact (exists_shorter_iff rfl (Format.exact_pos (by decide))).mpr (by decide +kernel)

-- The text has nine digits there, and eight are enough.
theorem not_forall_length_text_le :
    ¬ ∀ (x : Single) (neg : Bool) (q : Rat) (s : Text), x.denoted? = some (.signed neg q) → 0 < q →
      Single.read s = .ok x → x.text.significant.length ≤ s.significant.length := by
  intro h
  have := h (.num false 260046848) false _ "12621775e-36".toList rfl (Format.exact_pos (by decide))
    (by decide +kernel)
  exact absurd this (by decide +kernel)

end Display

end Single
end MemoBase
