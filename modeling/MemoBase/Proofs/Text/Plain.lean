import MemoBase.Proofs.Number.Digits
import MemoBase.Proofs.Text.Lines

namespace MemoBase

-- The text can stand in any line: it has no blank and opens no block.
def Text.IsPlain (s : Text) : Prop :=
  ∀ c ∈ s, Text.isBlank c = false ∧ c ≠ '<'

namespace Text.IsPlain

variable {s t : Text} {c : Char}

theorem cons (hc : isBlank c = false ∧ c ≠ '<') (hs : IsPlain s) : IsPlain (c :: s) := by
  simpa [IsPlain] using ⟨hc, hs⟩

theorem append (hs : IsPlain s) (ht : IsPlain t) : IsPlain (s ++ t) := by
  intro c hc
  cases List.mem_append.mp hc
  case inl h => exact hs c h
  case inr h => exact ht c h

theorem of_isDigit (h : ∀ c ∈ s, c.isDigit) : IsPlain s := by
  intro c hc
  have := Char.isDigit_iff_toNat.mp (h c hc)
  simp only [Char.reduceToNat] at this
  constructor
  case left  => simp [isBlank, CharRanges.contains, blankRanges]; omega
  case right => rintro rfl; simp at this

theorem ofNat (n : Nat) : IsPlain (Text.ofNat n) :=
  of_isDigit fun _ => isDigit_of_mem_ofNat

theorem ofInt (n : Int) : IsPlain (Text.ofInt n) := by
  unfold Text.ofInt
  split
  · exact cons (by decide) (ofNat _)
  · exact ofNat _

theorem decimal (d : Decimal) : IsPlain d.text := by
  simp only [Decimal.text]
  split
  · exact (ofNat _).append (cons (by decide) (of_isDigit fun _ => Decimal.isDigit_of_mem_padded))
  · exact ofNat _

theorem binary {F : Format} (x : Binary F) : IsPlain x.text := by
  have hm (q : Rat) : IsPlain (Binary.magnitudeText q) := by
    unfold Binary.magnitudeText
    split
    · exact ofNat _
    · exact decimal _
  cases x
  case nan => simp [Binary.text, IsPlain]; decide
  case num neg code =>
    have hs : IsPlain
        (if code.val = F.top then "inf".toList else Binary.magnitudeText (F.exact code)) := by
      split
      · simp [IsPlain]; decide
      · exact hm _
    simp only [Binary.text]
    split
    · exact cons (by decide) hs
    · exact hs

theorem no_blank (h : IsPlain s) : ∀ c ∈ s, isBlank c = false :=
  fun c hc => (h c hc).left

end Text.IsPlain
end MemoBase
