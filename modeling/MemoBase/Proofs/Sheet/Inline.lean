import MemoBase.Proofs.Sheet.Rows

namespace MemoBase

open Text

-- A text that can be written behind a key.
structure Text.Inline (s : Text) : Prop where
  fits   : s.FitsLine
  ne_nil : s ≠ []
  plain  : "<<".toList.isPrefixOf s = false

instance (s : Text) : Decidable s.Inline :=
  decidable_of_iff (s.FitsLine ∧ s ≠ [] ∧ "<<".toList.isPrefixOf s = false)
    ⟨fun ⟨h₁, h₂, h₃⟩ => ⟨h₁, h₂, h₃⟩, fun ⟨h₁, h₂, h₃⟩ => ⟨h₁, h₂, h₃⟩⟩

namespace Row

variable {r : Row} {rs : List Row} {s : Text}

theorem trim_head_inline (hs : s.Inline) : (r.head ++ ' ' :: s).trim = r.head ++ ' ' :: s := by
  refine trim_head_append (by simp) ?_
  rw [List.getLast?_cons_of_ne_nil hs.ne_nil]
  exact (trim_eq_self_iff.mp hs.fits.left).right

theorem inline_unbroken (hk : Node.isKey r.key) (hs : s.Inline) : Unbroken (r.head ++ ' ' :: s) := by
  refine (head_unbroken hk).append ?_
  simpa [Unbroken] using ⟨by decide, hs.fits.right⟩

theorem opened?_inline (hk : Node.isKey r.key) (hs : s.Inline) :
    Statement.opened? (r.head ++ ' ' :: s).trim = some (r.draft (.inline s)) := by
  rw [trim_head_inline hs]
  exact opened?_head hk (Stops.cons.mpr (by decide)) (Stops.cons.mpr (by decide))
    (Line.opening?_inline hs.fits hs.plain)

theorem continues_head (hs : s.Inline) : Statement.continues (r.head ++ ' ' :: s).trim = false := by
  rw [trim_head_inline hs]
  simp [head, Statement.continues, r.mark.isToken_char]

theorem finish_draft_inline (hs : s.Inline) :
    (r.draft (.inline s)).finish = statement ⟨r.mark, r.key, .text s⟩ := by
  rw [finish_draft rfl, value_draft_inline hs.fits]

def line (r : Row) : Text :=
  r.head ++ ' ' :: r.value.display

structure Inline (r : Row) : Prop where
  key   : Node.isKey r.key
  value : ∃ s, r.value = .text s ∧ s.Inline

theorem line_ne_nil : r.line ≠ [] := by
  simp [line]

theorem Inline.line_unbroken (h : r.Inline) : Unbroken r.line := by
  obtain ⟨hk, s, hv, hs⟩ := h
  rw [line, hv]
  exact inline_unbroken hk hs

-- Each of the lines ends what stands open above it, unless that is a block.
theorem ofLines_map_line {d? : Option Draft} (hd : ∀ d ∈ d?, d.delim? = none)
    (h : ∀ r ∈ rs, r.Inline) :
    Statement.ofLines d? (rs.map line) = (d?.map Draft.finish).toList ++ rs.map statement := by
  induction rs generalizing d?
  case nil => simp [Statement.ofLines]
  case cons r rs hi =>
    obtain ⟨⟨hk, s, hv, hs⟩, hrs⟩ := List.forall_mem_cons.mp h
    have hl : r.line = r.head ++ ' ' :: s := by rw [line, hv, Value.display]
    have hd' : ∀ d ∈ some (r.draft (.inline s)), d.delim? = none := fun _ h =>
      Option.some.inj h ▸ rfl
    rw [List.map_cons, hl, Statement.ofLines_turn hd (continues_head hs), Statement.ofLines,
      Statement.step, opened?_inline hk hs, hi hd' hrs, Option.map_some, finish_draft_inline hs, ← hv]
    rfl

theorem lines_map_line (h : ∀ r ∈ rs, r.Inline) : lines (joinLines (rs.map line)) = rs.map line :=
  lines_joinLines <| List.forall_mem_map.mpr fun r hr => ⟨line_ne_nil, (h r hr).line_unbroken⟩

theorem ofText_map_line (h : ∀ r ∈ rs, r.Inline) :
    Statement.ofText (joinLines (rs.map line)) = rs.map statement := by
  rw [Statement.ofText, lines_map_line h, ofLines_map_line (by simp) h]
  rfl

end Row
end MemoBase
