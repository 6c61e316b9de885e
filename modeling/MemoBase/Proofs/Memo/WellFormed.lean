import MemoBase.Proofs.Memo.Representable

namespace MemoBase

open Text

namespace Value

def WellFormed : Value → Prop
  | text s        => s.FitsLine
  | block s delim => s.trim = s ∧ OnlyFeeds s ∧ delim.IsDelim
  | _             => False

-- No line of a block closes it before its end.
def Closable : Value → Prop
  | block s delim => ∀ l ∈ s.lines, l.trimRight ≠ delim
  | _             => True

instance : (v : Value) → Decidable v.WellFormed
  | text s                        => inferInstanceAs (Decidable s.FitsLine)
  | block s delim                 => inferInstanceAs (Decidable (_ ∧ OnlyFeeds s ∧ delim.IsDelim))
  | integer _ | number _ | bool _ => inferInstanceAs (Decidable False)

instance : (v : Value) → Decidable v.Closable
  | block s _                              => List.decidableBAll _ s.lines
  | text _ | integer _ | number _ | bool _ => inferInstanceAs (Decidable True)

variable {v : Value} {s : Text}

theorem wellFormed_iff : v.WellFormed ∧ v.Closable ↔ v.IsText ∧ v.Representable := by
  cases v
  case text => simp [WellFormed, Closable, IsText, Representable]
  case block s delim =>
    simp [WellFormed, Closable, IsText, Representable, fitsBlock_iff, IsDelim, and_assoc]
  all_goals simp [WellFormed, IsText]

theorem WellFormed.isText (h : v.WellFormed) : v.IsText := by
  cases v <;> simp_all [WellFormed, IsText]

@[simp]
theorem plain_ofText (s : Text) : (ofText s none).plain = s := by
  simp only [ofText]
  split <;> rfl

theorem wellFormed_ofText (ht : s.trim = s) (hf : OnlyFeeds s) : (ofText s none).WellFormed := by
  simp only [ofText]
  split
  case isTrue    => exact ⟨ht, hf, by decide⟩
  case isFalse h =>
    refine ⟨ht, fun c hc => ?_⟩
    cases hb : isBreak c
    case false => rfl
    case true  =>
      cases hf c hc hb
      simp [hc] at h

end Value

def Attrs.WellFormed (as : Attrs) : Prop :=
  (as.map (·.1)).Nodup ∧ ∀ a ∈ as, Node.isKey a.1 ∧ a.2.WellFormed

namespace Node

structure WellFormed (n : Node) : Prop where
  key   : isKey n.key
  value : n.value.WellFormed
  attrs : n.attrs.WellFormed

variable {n : Node}

theorem WellFormed.isText (h : n.WellFormed) : n.IsText :=
  ⟨h.value.isText, fun a ha => (h.attrs.right a ha).right.isText⟩

theorem WellFormed.representable (h : n.WellFormed) (hv : n.value.Closable)
    (ha : ∀ a ∈ n.attrs, a.2.Closable) : n.Representable where
  key   := h.key
  value := (Value.wellFormed_iff.mp ⟨h.value, hv⟩).right
  attrs := by
    refine ⟨h.attrs.left, fun a hm => ?_⟩
    have ⟨hk, hw⟩ := h.attrs.right a hm
    exact ⟨hk, (Value.wellFormed_iff.mp ⟨hw, ha a hm⟩).right⟩

end Node

def Memo.WellFormed (m : Memo) : Prop :=
  ∀ n ∈ m.nodes, n.WellFormed

end MemoBase
