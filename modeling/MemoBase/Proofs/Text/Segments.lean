import MemoBase.Proofs.Text.Lines

namespace MemoBase.Text

variable {sep s t p w : Text} {c : Char} {ps : List Text}

section Lines

-- A separator of one character splits as it does in the library.
theorem segments_singleton (c : Char) (s : Text) : segments [c] s = s.splitOn c := by
  induction s
  case nil => rfl
  case cons d s hi =>
    have hn := List.splitOn_ne_nil c s
    rw [segments] at hi ⊢
    rw [segments.go, List.splitOn_cons_eq_if_modifyHead]
    by_cases hc : d = c <;> simp [hc, hi, hn, eq_comm (a := c)]

theorem segments_joinLines (hn : ps ≠ []) (h : ∀ p ∈ ps, '\n' ∉ p) :
    segments ['\n'] (joinLines ps) = ps := by
  rw [segments_singleton, joinLines, join_eq_intercalate, List.splitOn_intercalate '\n' h hn]

end Lines

theorem segments_cons (h : sep.isPrefixOf (c :: s) = false) :
    segments sep (c :: s) = push c (segments sep s) := by
  simp [segments, segments.go, h]

section Spaced

-- The separator with a space on either side.
def spaced (sep : Text) : Text :=
  ' ' :: (sep ++ [' '])

theorem go_length_append (sep w s : Text) :
    segments.go sep w.length (w ++ s) = segments.go sep 0 s := by
  induction w
  case nil => rfl
  case cons c w hi => simpa [segments.go] using hi

-- A separator at the beginning of a text has ended where the first space stands.
theorem isPrefix_of_isPrefix_append (hb : ∀ c ∈ sep, isBlank c = false)
    (h : sep <+: s ++ ' ' :: t) : sep <+: s := by
  rcases List.prefix_or_prefix_of_prefix h (List.prefix_append s _) with hp | ⟨u, hu⟩
  case inl => exact hp
  case inr =>
    subst hu
    cases u
    case nil => simp
    case cons c u =>
      obtain ⟨rfl, _⟩ := List.cons_prefix_cons.mp ((List.prefix_append_right_inj s).mp h)
      exact absurd (hb ' ' (by simp)) (by decide)

theorem not_isPrefix_space (hs : sep ≠ []) (hb : ∀ c ∈ sep, isBlank c = false) :
    ¬sep <+: ' ' :: t :=
  fun h => hs (List.prefix_nil.mp (isPrefix_of_isPrefix_append (s := []) hb h))

theorem not_infix_replicate (hs : sep ≠ []) (hb : ∀ c ∈ sep, isBlank c = false)
    (h : ¬sep <:+: s) (n : Nat) : ¬sep <:+: List.replicate n ' ' ++ s := by
  induction n
  case zero => exact h
  case succ n hi =>
    rw [List.replicate_succ, List.cons_append, List.infix_cons_iff, not_or]
    exact ⟨not_isPrefix_space hs hb, hi⟩

theorem segments_of_not_infix (h : ¬sep <:+: s) : segments sep s = [s] := by
  induction s
  case nil => rfl
  case cons c s hi =>
    have hp : sep.isPrefixOf (c :: s) = false := by
      rw [Bool.eq_false_iff, Ne, List.isPrefixOf_iff_prefix]
      exact mt List.IsPrefix.isInfix h
    rw [segments_cons hp, hi (mt List.infix_cons h), push]

theorem segments_append (hs : sep ≠ []) : segments sep (sep ++ t) = [] :: segments sep t := by
  cases sep
  case nil => contradiction
  case cons c sep =>
    have hp : (c :: sep).isPrefixOf (c :: (sep ++ t)) := by
      simp [List.isPrefixOf_iff_prefix]
    rw [segments, List.cons_append, segments.go, if_pos hp, List.length_cons, Nat.add_sub_cancel,
      go_length_append, ← segments]

theorem segments_append_space (hs : sep ≠ []) (hb : ∀ c ∈ sep, isBlank c = false)
    (h : ¬sep <:+: s) :
    segments sep (s ++ ' ' :: (sep ++ t)) = (s ++ [' ']) :: segments sep t := by
  induction s
  case nil =>
    have hp : sep.isPrefixOf (' ' :: (sep ++ t)) = false := by
      rw [Bool.eq_false_iff, Ne, List.isPrefixOf_iff_prefix]
      exact not_isPrefix_space hs hb
    rw [List.nil_append, segments_cons hp, segments_append hs]
    rfl
  case cons c s hi =>
    have hp : sep.isPrefixOf (c :: (s ++ ' ' :: (sep ++ t))) = false := by
      rw [Bool.eq_false_iff, Ne, List.isPrefixOf_iff_prefix]
      exact fun hp => h (isPrefix_of_isPrefix_append (s := c :: s) hb hp).isInfix
    rw [List.cons_append, segments_cons hp, hi (mt List.infix_cons h)]
    rfl

-- Trimming takes away the spaces that come with the separators, and those in front of the first.
theorem map_trim_segments_join (hs : sep ≠ []) (hb : ∀ c ∈ sep, isBlank c = false) (hn : ps ≠ [])
    (h : ∀ p ∈ ps, p.trim = p ∧ ¬sep <:+: p) (n : Nat) :
    (segments sep (List.replicate n ' ' ++ join (spaced sep) ps)).map trim = ps := by
  have hw (n : Nat) : ∀ c ∈ List.replicate n ' ', isBlank c := fun c hc =>
    List.eq_of_mem_replicate hc ▸ by decide
  induction ps generalizing n
  case nil => contradiction
  case cons p ps hi =>
    obtain ⟨⟨ht, hp⟩, hps⟩ := List.forall_mem_cons.mp h
    have hp := not_infix_replicate hs hb hp n
    have ht : trim (List.replicate n ' ' ++ p) = p := (trim_append_left (hw n)).trans ht
    cases ps
    case nil => simp [join, segments_of_not_infix hp, ht]
    case cons q ps =>
      have hj : List.replicate n ' ' ++ join (spaced sep) (p :: q :: ps) =
          (List.replicate n ' ' ++ p) ++ ' ' :: (sep ++ (List.replicate 1 ' ' ++
            join (spaced sep) (q :: ps))) := by
        simp [join, spaced]
      rw [hj, segments_append_space hs hb hp, List.map_cons, trim_append_right (w := [' ']) (hw 1),
        ht, hi (by simp) hps]

end Spaced

end MemoBase.Text
