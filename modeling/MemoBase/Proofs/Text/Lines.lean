import MemoBase.Proofs.Text.Classes
import MemoBase.Proofs.Text.Cut

namespace MemoBase.Text

variable {s t : Text} {c : Char}

-- No character of the text breaks a line.
def Unbroken (s : Text) : Prop :=
  ∀ c ∈ s, isBreak c = false

-- Line feeds are the only characters of the text that break a line.
def OnlyFeeds (s : Text) : Prop :=
  ∀ c ∈ s, isBreak c → c = '\n'

theorem Unbroken.of_no_blank (h : ∀ c ∈ s, isBlank c = false) : Unbroken s := by
  intro c hc
  cases hb : isBreak c
  case false => rfl
  case true  => exact (isBlank_of_isBreak hb).symm.trans (h c hc)

theorem Unbroken.append (hs : Unbroken s) (ht : Unbroken t) : Unbroken (s ++ t) := by
  intro c hc
  cases List.mem_append.mp hc
  case inl h => exact hs c h
  case inr h => exact ht c h

theorem Unbroken.onlyFeeds (h : Unbroken s) : OnlyFeeds s :=
  fun c hc hb => by simp [h c hc] at hb

theorem Unbroken.feed_not_mem (h : Unbroken s) : '\n' ∉ s :=
  fun hm => absurd (h _ hm) (by decide)

section Join

@[simp]
theorem push_eq_modifyHead {ps : List Text} (h : ps ≠ []) : push c ps = ps.modifyHead (c :: ·) := by
  cases ps
  case nil  => contradiction
  case cons => rfl

theorem join_eq_intercalate (sep : Text) : (ps : List Text) → join sep ps = sep.intercalate ps
  | []          => rfl
  | [_]         => by simp [join]
  | p :: q :: ps => by simp [join, join_eq_intercalate sep (q :: ps)]

theorem joinLines_cons (p : Text) {ps : List Text} (h : ps ≠ []) :
    joinLines (p :: ps) = p ++ '\n' :: joinLines ps := by
  obtain ⟨q, qs, rfl⟩ := List.exists_cons_of_ne_nil h
  simp [joinLines, join]

theorem joinLines_append {ps qs : List Text} (hp : ps ≠ []) (hq : qs ≠ []) :
    joinLines (ps ++ qs) = joinLines ps ++ '\n' :: joinLines qs := by
  induction ps
  case nil => contradiction
  case cons p ps hi =>
    cases ps
    case nil      => exact joinLines_cons p hq
    case cons r t =>
      have hi := hi (List.cons_ne_nil r t)
      rw [List.cons_append, joinLines_cons p (by simp), hi, joinLines_cons p (by simp)]
      simp

-- Lines that come in groups can be joined group by group.
theorem joinLines_flatMap {α : Type} {f : α → List Text} (hf : ∀ a, f a ≠ []) (l : List α) :
    joinLines (l.flatMap f) = joinLines (l.map fun a => joinLines (f a)) := by
  induction l
  case nil => rfl
  case cons a l hi =>
    cases l
    case nil      => simp [joinLines, join]
    case cons b l =>
      have hl : (b :: l).flatMap f ≠ [] := by simp [hf]
      rw [List.flatMap_cons, joinLines_append (hf a) hl, hi]
      exact (joinLines_cons _ (by simp)).symm

theorem joinLines_splitOn : joinLines (s.splitOn '\n') = s := by
  rw [joinLines, join_eq_intercalate, List.intercalate_splitOn]

theorem eq_feed_or_of_mem_joinLines {ps : List Text} (h : c ∈ joinLines ps) :
    c = '\n' ∨ ∃ p ∈ ps, c ∈ p := by
  induction ps
  case nil => simp [joinLines, join] at h
  case cons p ps hi =>
    cases ps
    case nil => exact .inr ⟨p, List.mem_cons_self, h⟩
    case cons q ps =>
      have h : c ∈ p ++ '\n' :: joinLines (q :: ps) := by simpa [joinLines, join] using h
      rcases List.mem_append.mp h with h | h
      case inl => exact .inr ⟨p, List.mem_cons_self, h⟩
      case inr =>
        rcases List.mem_cons.mp h with h | h
        case inl => exact .inl h
        case inr => exact (hi h).imp_right fun ⟨l, hl, hc⟩ => ⟨l, List.mem_cons_of_mem p hl, hc⟩

theorem onlyFeeds_joinLines {ps : List Text} (h : ∀ p ∈ ps, Unbroken p) :
    OnlyFeeds (joinLines ps) := by
  intro c hc hb
  rcases eq_feed_or_of_mem_joinLines hc with rfl | ⟨p, hp, hm⟩
  case inl => rfl
  case inr => simp [h p hp c hm] at hb

-- Lines in front of one that is not empty make up less of the text.
theorem length_joinLines_lt {l : Text} (h : l ≠ []) (ps qs : List Text) :
    (joinLines ps).length < (joinLines (ps ++ l :: qs)).length := by
  induction ps
  case nil =>
    have hl := List.length_pos_of_ne_nil h
    cases qs
    case nil  => exact hl
    case cons =>
      simp only [joinLines, join, List.nil_append, List.length_append, List.length_nil]
      omega
  case cons p ps hi =>
    cases ps
    case nil => simp [joinLines, join]
    case cons q ps =>
      simp only [joinLines, join, List.cons_append, List.length_append] at hi ⊢
      omega

end Join

section Lines

@[simp]
theorem lines_feed : lines ('\n' :: t) = [] :: lines t := by
  simp [lines, leadsFeed, isBreak]

theorem lines_cons_of_not_break (h : isBreak c = false) : lines (c :: t) = push c (lines t) := by
  have : c ≠ '\r' := by rintro rfl; contradiction
  simp [lines, leadsFeed, h, this]

theorem lines_append_feed (h : OnlyFeeds s) : lines (s ++ '\n' :: t) = s.splitOn '\n' ++ lines t := by
  induction s
  case nil => simp
  case cons c s hi =>
    have hi := hi fun d hd => h d (List.mem_cons_of_mem _ hd)
    rw [List.cons_append, List.splitOn_cons_eq_if_modifyHead]
    cases hb : isBreak c
    case true =>
      cases h c List.mem_cons_self hb
      simp [hi]
    case false =>
      have hc : c ≠ '\n' := by rintro rfl; contradiction
      have ⟨p, ps, hp⟩ := List.exists_cons_of_ne_nil (List.splitOn_ne_nil '\n' s)
      simp [lines_cons_of_not_break hb, hi, hp, hc]

theorem lines_append_feed_of_unbroken (h : Unbroken s) : lines (s ++ '\n' :: t) = s :: lines t := by
  simp [lines_append_feed h.onlyFeeds, List.splitOn_eq_singleton h.feed_not_mem]

-- A break at the end opens no further line, so of the pieces only an empty one can be missing.
theorem lines_of_unbroken (hs : s ≠ []) (h : Unbroken s) : lines s = [s] := by
  induction s
  case nil => contradiction
  case cons c s hi =>
    rw [lines_cons_of_not_break (h c List.mem_cons_self)]
    cases s
    case nil  => rfl
    case cons => rw [hi (by simp) fun c hc => h c (List.mem_cons_of_mem _ hc), push]

theorem lines_joinLines {ls : List Text} (h : ∀ l ∈ ls, l ≠ [] ∧ Unbroken l) :
    lines (joinLines ls) = ls := by
  induction ls
  case nil => rfl
  case cons l ls hi =>
    obtain ⟨⟨hn, hu⟩, hls⟩ := List.forall_mem_cons.mp h
    cases ls
    case nil => exact lines_of_unbroken hn hu
    case cons l' ls =>
      have hj : joinLines (l :: l' :: ls) = l ++ '\n' :: joinLines (l' :: ls) := by
        simp [joinLines, join]
      rw [hj, lines_append_feed_of_unbroken hu, hi hls]

theorem splitOn_eq_lines_or (h : OnlyFeeds s) :
    s.splitOn '\n' = s.lines ∨ s.splitOn '\n' = s.lines ++ [[]] := by
  induction s
  case nil => simp [lines]
  case cons c s hi =>
    have hi := hi fun d hd => h d (List.mem_cons_of_mem _ hd)
    rw [List.splitOn_cons_eq_if_modifyHead]
    cases hb : isBreak c
    case true =>
      cases h c List.mem_cons_self hb
      simpa using hi
    case false =>
      have hc : c ≠ '\n' := by rintro rfl; contradiction
      rw [lines_cons_of_not_break hb]
      cases hi
      case inl he => simp [hc, ← he]
      case inr he =>
        cases hs : lines s
        case nil  => simp [hc, he, hs, push]
        case cons => simp [hc, he, hs, push]

theorem mem_lines_of_mem_splitOn (h : OnlyFeeds s) {l : Text} (hl : l ∈ s.splitOn '\n')
    (hn : l ≠ []) : l ∈ s.lines := by
  cases splitOn_eq_lines_or h
  case inl he => exact he ▸ hl
  case inr he => simpa [he, hn] using hl

theorem mem_splitOn_of_mem_lines (h : OnlyFeeds s) {l : Text} (hl : l ∈ s.lines) :
    l ∈ s.splitOn '\n' := by
  cases splitOn_eq_lines_or h
  case inl he => exact he ▸ hl
  case inr he => exact he ▸ List.mem_append_left [[]] hl

end Lines

section Pieces

-- What all characters of the pieces have in common, the new one has to share.
theorem forall_mem_push {q : Char → Prop} {ps : List Text} (hc : q c)
    (h : ∀ p ∈ ps, ∀ d ∈ p, q d) : ∀ p ∈ push c ps, ∀ d ∈ p, q d := by
  cases ps
  case nil  => simpa [push] using hc
  case cons => simpa [push, hc] using h

theorem unbroken_of_mem_lines : ∀ l ∈ lines s, Unbroken l := by
  induction s
  case nil => simp [lines]
  case cons c s hi =>
    unfold lines
    split
    case isTrue => exact hi
    case isFalse =>
      split
      case isTrue     => exact List.forall_mem_cons.mpr ⟨nofun, hi⟩
      case isFalse hb => exact forall_mem_push (by simpa using hb) hi

theorem mem_of_mem_segments {sep : Text} : ∀ p ∈ segments sep s, ∀ c ∈ p, c ∈ s := by
  suffices ∀ k, ∀ p ∈ segments.go sep k s, ∀ c ∈ p, c ∈ s from this 0
  intro k
  fun_induction segments.go sep k s
  case case1 => simp
  case case2 k c s hi => exact fun p hp d hd => List.mem_cons_of_mem c (hi p hp d hd)
  case case3 c s _ hi =>
    refine List.forall_mem_cons.mpr ⟨nofun, ?_⟩
    exact fun p hp d hd => List.mem_cons_of_mem c (hi p hp d hd)
  case case4 c s _ hi =>
    refine forall_mem_push List.mem_cons_self ?_
    exact fun p hp d hd => List.mem_cons_of_mem c (hi p hp d hd)

end Pieces

section Append

theorem leadsFeed_append (h : s ≠ []) : leadsFeed c (s ++ t) = leadsFeed c s := by
  cases s
  case nil  => contradiction
  case cons => rfl

theorem push_append {ps qs : List Text} (h : ps ≠ []) : push c (ps ++ qs) = push c ps ++ qs := by
  cases ps
  case nil  => contradiction
  case cons => rfl

theorem lines_ne_nil (h : s ≠ []) : lines s ≠ [] := by
  induction s
  case nil => contradiction
  case cons c s hi =>
    unfold lines
    split
    case isTrue hf =>
      refine hi ?_
      rintro rfl
      simp [leadsFeed] at hf
    case isFalse =>
      split
      case isTrue  => simp
      case isFalse => cases lines s <;> simp [push]

theorem lines_singleton_append_feed (c : Char) (t : Text) :
    lines (c :: '\n' :: t) = lines [c] ++ lines t ∨
      lines (c :: '\n' :: t) = lines [c] ++ [] :: lines t := by
  by_cases hf : c = '\r'
  case pos => exact .inl (by simp [lines, leadsFeed, isBreak, hf])
  case neg =>
    cases hb : isBreak c
    case false =>
      refine .inl ?_
      rw [lines_cons_of_not_break hb, lines_feed, lines_cons_of_not_break hb]
      rfl
    case true =>
      refine .inr ?_
      rw [lines, lines_feed]
      simp [lines, leadsFeed, hf, hb]

-- A break at the end of the first text leaves an empty line in front of the line feed, unless the
-- two are one break.
theorem lines_append_feed_cases (s t : Text) :
    lines (s ++ '\n' :: t) = lines s ++ lines t ∨
      lines (s ++ '\n' :: t) = lines s ++ [] :: lines t := by
  induction s
  case nil => exact .inr (by simp [lines])
  case cons c s hi =>
    by_cases hs : s = []
    case pos =>
      subst hs
      exact lines_singleton_append_feed c t
    case neg =>
      rw [List.cons_append, lines, leadsFeed_append hs, lines]
      split
      case isTrue => exact hi
      case isFalse =>
        split
        case isTrue  => exact hi.imp (congrArg ([] :: ·)) (congrArg ([] :: ·))
        case isFalse =>
          have hl := lines_ne_nil hs
          rw [← push_append hl, ← push_append hl]
          exact hi.imp (congrArg (push c)) (congrArg (push c))

end Append
end MemoBase.Text
