import MemoBase.Memo.Node
import MemoBase.Proofs.Text.Lines

namespace MemoBase.Node

open Text

variable {k r : Text} {c : Char}

theorem isKeyChar_of_isKeyStart (h : isKeyStart c) : isKeyChar c := by
  simp_all [isKeyStart, isKeyChar]

theorem isKeyChar_of_isKey (h : isKey k) : ∀ c ∈ k, isKeyChar c := by
  cases k
  case nil => simp
  case cons c k =>
    simp only [isKey, Bool.and_eq_true, List.all_eq_true] at h
    intro d hd
    cases hd
    case head    => exact isKeyChar_of_isKeyStart h.left
    case tail hd => exact h.right d hd

theorem isKey_ne_nil (h : isKey k) : k ≠ [] := by
  rintro rfl
  contradiction

theorem readKey?_append (hk : isKey k) (hr : Stops isKeyChar r) :
    readKey? (k ++ r) = some (k, r) := by
  cases k
  case nil => contradiction
  case cons c k =>
    have hc := isKeyChar_of_isKey hk
    simp only [isKey, Bool.and_eq_true] at hk
    have hk' := fun d hd => hc d (List.mem_cons_of_mem c hd)
    simp [readKey?, hk.left, takeWhile_append hk' hr, dropWhile_append hk' hr]

theorem readKey?_eq_some_iff {s : Text} :
    readKey? s = some (k, r) ↔ isKey k ∧ Stops isKeyChar r ∧ s = k ++ r where
  mp h := by
    cases s
    case nil => simp [readKey?] at h
    case cons c s =>
      by_cases hc : isKeyStart c <;> simp [readKey?, hc] at h
      have ⟨hk, hr⟩ := h
      subst hk hr
      refine ⟨?key, Stops.dropWhile _ s, ?eq⟩
      case key => simp [isKey, hc]
      case eq  => simp
  mpr := fun ⟨hk, hr, he⟩ => he ▸ readKey?_append hk hr

-- No character that has a meaning of its own in a line belongs to a key.
theorem isBlank_of_isKeyChar (h : isKeyChar c) : isBlank c = false := by
  cases hb : isBlank c
  case false => rfl
  case true  =>
    simp only [isKeyChar, isWord_of_isBlank hb, Bool.false_or, Bool.or_eq_true, beq_iff_eq] at h
    rcases h with rfl | rfl <;> contradiction

theorem isKeyChar_of_isBlank (h : isBlank c) : isKeyChar c = false := by
  cases hk : isKeyChar c
  case false => rfl
  case true  => exact h.symm.trans (isBlank_of_isKeyChar hk)

theorem isKey_unbroken (h : isKey k) : Unbroken k :=
  .of_no_blank fun c hc => isBlank_of_isKeyChar (isKeyChar_of_isKey h c hc)

end MemoBase.Node
