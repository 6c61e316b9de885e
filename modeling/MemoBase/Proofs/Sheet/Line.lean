import MemoBase.Proofs.Sheet.Rows

namespace MemoBase

open Text

theorem Mark.ofChar?_eq_some_iff {c : Char} {m : Mark} : ofChar? c = some m ↔ c = m.char where
  mp h := by
    unfold ofChar? at h
    split at h <;> cases h <;> rfl
  mpr h := h ▸ m.ofChar?_char

namespace Line

variable {s rest delim : Text} {l : Line} {o : Opening}

theorem read?_eq_some_iff :
    read? s = some l ↔ ∃ rest : Text, s = l.mark.char :: (l.key ++ (l.sep ++ rest)) ∧
      Node.isKey l.key ∧ Stops Node.isKeyChar (l.sep ++ rest) ∧ (∀ c ∈ l.sep, isSeparator c) ∧
      Stops isSeparator rest ∧ opening? rest = some l.opening := by
  constructor
  case mp =>
    intro h
    cases s
    case nil => contradiction
    case cons c s =>
      simp only [read?, Option.bind_eq_bind, Option.bind_eq_some_iff] at h
      obtain ⟨m, hm, ⟨key, rest⟩, hk, o, ho, hl⟩ := h
      obtain ⟨hk, hr, hs⟩ := Node.readKey?_eq_some_iff.mp hk
      cases Mark.ofChar?_eq_some_iff.mp hm
      cases hl
      refine ⟨rest.dropWhile isSeparator, ?_⟩
      rw [List.takeWhile_append_dropWhile]
      exact ⟨congrArg _ hs, hk, hr, fun c hc => List.mem_takeWhile_imp hc, .dropWhile _ _, ho⟩
  case mpr =>
    rintro ⟨rest, hs, hk, hr, hp, hd, ho⟩
    simp [hs, read?, Mark.ofChar?_char, Node.readKey?_append hk hr, dropWhile_append hp hd,
      takeWhile_append hp hd, ho]

theorem isDelim_of_delim? (h : delim? s = some delim) : delim.IsDelim := by
  unfold delim? at h
  split at h
  case h_1 =>
    simp only [Option.ite_none_right_eq_some, Option.some.injEq] at h
    have ⟨hd, he⟩ := h
    subst he
    simpa [IsDelim] using hd
  case h_2 => contradiction

-- A rest opens a block with a delimiter that can stand in a line of its own, or it is a value without
-- the blanks around it.
theorem opening?_spec (h : opening? rest = some o) :
    (∃ delim, o = .block delim ∧ delim.IsDelim) ∨ o = .inline rest.trim := by
  unfold opening? at h
  split at h
  case h_1 delim hd =>
    cases h
    exact .inl ⟨delim, rfl, isDelim_of_delim? hd⟩
  case h_2 =>
    split at h
    case h_1 => exact .inr (Option.some.inj h).symm
    case h_2 c s =>
      simp only [Option.ite_none_right_eq_some, Option.some.injEq] at h
      exact .inr h.right.symm

end Line
end MemoBase
