import MemoBase.Toml.Plain
import MemoBase.Proofs.Toml.Reader

namespace MemoBase.Toml

variable {s rest : Text} {c : Char} {v : Value} {width least most n : Nat}

theorem words_ne_nil : ∀ p ∈ words, p.1 ≠ [] := by
  decide

theorem length_word?_lt (h : word? s = some (v, rest)) : rest.length < s.length := by
  obtain ⟨⟨w, v'⟩, hw, h⟩ := List.exists_of_findSome?_eq_some h
  obtain ⟨hp, he⟩ := Option.ite_none_right_eq_some.mp h
  cases he
  have : 0 < w.length := List.length_pos_iff.mpr (words_ne_nil _ hw)
  have := (List.isPrefixOf_iff_prefix.mp hp).length_le
  simp only [List.length_drop]
  omega

theorem length_field? (h : field? width least most s = some (n, rest)) :
    rest.length + width = s.length := by
  rw [field?] at h
  split at h
  case isFalse => contradiction
  case isTrue hd =>
    cases h
    have := hd.left
    simp only [List.length_take, List.length_drop] at this ⊢
    omega

theorem length_after?_lt (h : after? c s = some rest) : rest.length < s.length := by
  rw [after?] at h
  split at h
  case isFalse => contradiction
  case isTrue hs =>
    obtain ⟨s', rfl⟩ := List.head?_eq_some_iff.mp hs
    cases h
    exact Nat.lt_succ_self _

theorem length_clock?_lt (h : clock? s = some rest) : rest.length < s.length := by
  rw [clock?] at h
  simp only [Option.bind_eq_bind, Option.bind_eq_some_iff, Prod.exists] at h
  obtain ⟨_, r, hr, r', hr', _, r'', hr'', he⟩ := h
  cases he
  have := length_field? hr
  have := length_after?_lt hr'
  have := length_field? hr''
  omega

theorem length_time?_lt (h : time? s = some rest) : rest.length < s.length := by
  rw [time?] at h
  simp only [Option.bind_eq_bind, Option.bind_eq_some_iff, Prod.exists] at h
  obtain ⟨r, hr, r', hr', _, r'', hr'', h⟩ := h
  have := length_clock?_lt hr
  have := length_after?_lt hr'
  have := length_field? hr''
  split at h
  case h_1 t =>
    have := (List.dropWhile_suffix Char.isDigit (l := t)).length_le
    cases h
    split
    case isTrue  => simp only [List.length_cons] at *; omega
    case isFalse => omega
  case h_2 => cases h; omega

theorem length_skipOffset_le (s : Text) : (skipOffset s).length ≤ s.length := by
  cases s
  case nil      => exact Nat.le_refl _
  case cons c s =>
    rw [skipOffset]
    split
    case isTrue => exact Nat.le_succ _
    split
    case isFalse => exact Nat.le_refl _
    case isTrue  =>
      cases h : clock? s
      case none   => exact Nat.le_refl _
      case some r => exact Nat.le_succ_of_le (Nat.le_of_lt (length_clock?_lt h))

theorem length_date?_lt {real : Bool} (h : date? s = some (real, rest)) :
    rest.length < s.length := by
  rw [date?] at h
  simp only [Option.bind_eq_bind, Option.bind_eq_some_iff, Prod.exists] at h
  obtain ⟨_, r, hr, r₁, hr₁, _, r₂, hr₂, r₃, hr₃, _, r₄, hr₄, he⟩ := h
  cases he
  have := length_field? hr
  have := length_after?_lt hr₁
  have := length_field? hr₂
  have := length_after?_lt hr₃
  have := length_field? hr₄
  omega

theorem length_moment?_lt (h : moment? s = some (.ok (v, rest))) : rest.length < s.length := by
  rw [moment?] at h
  split at h
  case h_1 =>
    obtain ⟨r, hr, he⟩ := Option.map_eq_some_iff.mp h
    cases he
    exact length_time?_lt hr
  case h_2 => nomatch h
  case h_3 r hr =>
    have hl := length_date?_lt hr
    split at h
    case h_1 r' ht =>
      cases h
      have := length_skipOffset_le r'
      split at ht
      case isFalse => contradiction
      case isTrue  =>
        have := length_time?_lt ht
        have := (List.tail_suffix r).length_le
        omega
    case h_2 => cases h; exact hl

theorem length_moreDigits_le (base : Nat) (s : Text) :
    (moreDigits base s).1.length + (moreDigits base s).2.length ≤ s.length := by
  fun_induction moreDigits base s <;> simp_all <;> omega

theorem length_digits_le (base : Nat) (s : Text) :
    (digits base s).1.length + (digits base s).2.length ≤ s.length := by
  rw [digits]
  split
  case isTrue  => exact length_moreDigits_le base s
  case isFalse => exact Nat.le_of_eq (Nat.zero_add _)

theorem length_based?_lt (h : based? s = some (n, rest)) : rest.length < s.length := by
  rw [based?.eq_def] at h
  split at h
  case h_2 => contradiction
  case h_1 l s =>
    obtain ⟨base, _, h⟩ := Option.bind_eq_some_iff.mp h
    obtain ⟨_, he⟩ := Option.ite_none_left_eq_some.mp h
    cases he
    have := length_digits_le base s
    show (digits base s).2.length < s.length + 2
    omega

theorem length_whole_le (s : Text) : (whole s).1.length + (whole s).2.length ≤ s.length := by
  rw [whole]
  split
  case isTrue hs =>
    obtain ⟨s', rfl⟩ := List.head?_eq_some_iff.mp hs
    exact Nat.le_of_eq (Nat.add_comm ..)
  case isFalse => exact length_digits_le 10 s

theorem length_fraction_le (s : Text) : (fraction s).2.length ≤ s.length := by
  rw [fraction.eq_def]
  split
  case h_2 => exact Nat.le_refl _
  case h_1 t =>
    have := length_digits_le 10 t
    simp only
    split
    case isTrue  => exact Nat.le_refl _
    case isFalse => simp only [List.length_cons]; omega

theorem length_sign_le (s : Text) : (Numeral.sign s).2.length ≤ s.length := by
  rw [Numeral.sign.eq_def]
  split <;> simp

theorem length_exponent_le (s : Text) : (exponent s).2.length ≤ s.length := by
  rw [exponent.eq_def]
  split
  case h_1 => exact Nat.le_refl _
  case h_2 c t =>
    have := length_sign_le t
    have := length_digits_le 10 (Numeral.sign t).2
    simp only
    split
    case isTrue  => exact Nat.le_refl _
    case isFalse => simp only [List.length_cons]; omega

theorem takes_decimal (neg : Bool) : Takes (decimal neg) := by
  intro s v rest h
  rw [decimal] at h
  split at h
  case h_1 => contradiction
  case h_2 ds r hd hw =>
    have hr : r.length < s.length := by
      have := length_whole_le s
      have := List.length_pos_iff.mpr hd
      simp only [hw] at *
      omega
    have := length_fraction_le r
    have := length_exponent_le (fraction r).2
    simp only at h
    split at h
    case isTrue => cases h; omega
    split at h
    case isTrue  => contradiction
    case isFalse => cases h; omega

theorem takes_number : Takes number := by
  intro s v rest h
  rw [number] at h
  split at h
  case h_1 hb => cases h; exact length_based?_lt hb
  case h_2    => exact Nat.lt_of_lt_of_le (takes_decimal _ _ _ _ h) (length_sign_le s)

theorem takes_plain : Takes plain := by
  intro s v rest h
  rw [plain] at h
  split at h
  case h_1 hw => cases h; exact length_word?_lt hw
  case h_2    =>
    cases hm : moment? s
    case none   => exact takes_number _ _ _ (hm ▸ h)
    case some r =>
      rw [hm, Option.getD_some] at h
      exact length_moment?_lt (h ▸ hm)

end MemoBase.Toml
