import MemoBase.Text.Blank
import MemoBase.Text.Digit
import MemoBase.Text.Lines
import MemoBase.Text.Word

namespace MemoBase.Text

variable {c : Char}

namespace CharRanges

def codes (rs : CharRanges) : List Nat :=
  rs.flatMap fun r => List.range' r.1 (r.2 + 1 - r.1)

theorem contains_iff_mem_codes {rs : CharRanges} : rs.contains c ↔ c.toNat ∈ rs.codes := by
  simp only [contains_iff, codes, List.mem_flatMap, List.mem_range'_1]
  constructor
  all_goals
    intro ⟨r, hr, h⟩
    refine ⟨r, hr, ?_⟩
    omega

theorem forall_of_contains {rs : CharRanges} {p : Char → Prop}
    (h : ∀ n ∈ rs.codes, p (Char.ofNat n)) (hc : rs.contains c) : p c := by
  have := h _ (contains_iff_mem_codes.mp hc)
  rwa [Char.ofNat_toNat] at this

end CharRanges

theorem isWord_of_isBlank (h : isBlank c) : isWord c = false := by
  refine CharRanges.forall_of_contains (p := fun c => isWord c = false) ?_ h
  decide +kernel

theorem isDigit_of_isBlank (h : isBlank c) : isDigit c = false := by
  refine CharRanges.forall_of_contains (p := fun c => isDigit c = false) ?_ h
  decide +kernel

theorem isBlank_of_isDigit (h : isDigit c) : isBlank c = false := by
  cases hb : isBlank c
  case false => rfl
  case true  => exact (isDigit_of_isBlank hb).symm.trans h |>.symm

theorem beq_of_isBlank {d : Char} (hc : isBlank c) (hd : isBlank d = false) : (c == d) = false := by
  rw [beq_eq_false_iff_ne]
  rintro rfl
  exact absurd hc (by simp [hd])

theorem isBlank_of_isBreak (h : isBreak c) : isBlank c := by
  simp [isBreak, isBlank, CharRanges.contains, blankRanges] at h ⊢
  omega

end MemoBase.Text
