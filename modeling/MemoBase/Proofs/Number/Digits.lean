import MemoBase.Number.Shortest

namespace MemoBase.Text

variable {n width : Nat} {c : Char} {s t : Text}

theorem digitValue?_of_isDigit (h : c.isDigit) : digitValue? c = some (c.toNat - 48) := by
  have : c.toNat < 0x80 := by
    simp [Char.isDigit_iff_toNat] at h
    omega
  simp [digitValue?, h, this]

theorem isDigit_of_isDigit (h : c.isDigit) : isDigit c := by
  simp [isDigit, digitValue?_of_isDigit h]

theorem natOfDigits_eq_ofDigitChars (h : ∀ c ∈ s, c.isDigit) :
    natOfDigits s = Nat.ofDigitChars 10 s 0 := by
  unfold natOfDigits Nat.ofDigitChars
  generalize 0 = init
  induction s generalizing init
  case nil => rfl
  case cons c s hi =>
    have hc := digitValue?_of_isDigit (h c List.mem_cons_self)
    simp [hc, hi fun d hd => h d (List.mem_cons_of_mem _ hd)]

section Written

@[simp]
theorem ofNat_eq_toDigits : ofNat n = Nat.toDigits 10 n := by
  simp [ofNat]

theorem ofNat_ne_nil : ofNat n ≠ [] := by
  simp

theorem isDigit_of_mem_ofNat (h : c ∈ ofNat n) : c.isDigit :=
  Nat.isDigit_of_mem_toDigits (by decide) (by decide) (ofNat_eq_toDigits ▸ h)

theorem natOfDigits_ofNat : natOfDigits (ofNat n) = n := by
  rw [natOfDigits_eq_ofDigitChars fun _ => isDigit_of_mem_ofNat]
  simp

end Written
end MemoBase.Text

namespace MemoBase.Decimal

open Text

variable {n width : Nat} {c : Char}

theorem isDigit_of_mem_padded (h : c ∈ padded width n) : c.isDigit := by
  cases List.mem_append.mp h
  case inl h => simp [List.eq_of_mem_replicate h]
  case inr h => exact isDigit_of_mem_ofNat h

theorem length_padded (hw : 0 < width) (h : n < Nat.pow 10 width) :
    (padded width n).length = width := by
  have := (Nat.length_toDigits_le_iff (b := 10) (by decide) hw).mpr h
  simp [padded]
  omega

-- Zeros in front count nothing.
theorem natOfDigits_ofNat_append_padded {m : Nat} (hw : 0 < width) (h : n < Nat.pow 10 width) :
    natOfDigits (ofNat m ++ padded width n) = m * Nat.pow 10 width + n := by
  have hd : ∀ c ∈ ofNat m ++ padded width n, c.isDigit := by
    intro c hc
    cases List.mem_append.mp hc
    case inl hc => exact isDigit_of_mem_ofNat hc
    case inr hc => exact isDigit_of_mem_padded hc
  rw [natOfDigits_eq_ofDigitChars hd, Nat.ofDigitChars_append,
    Nat.ofDigitChars_eq_ofDigitChars_zero, length_padded hw h]
  simp [padded, Nat.ofDigitChars_append, Nat.mul_comm]

end MemoBase.Decimal
