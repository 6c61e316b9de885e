import MemoBase.Toml.Reader

namespace MemoBase.Toml

-- A reader that leaves fewer characters than it was given.
def Takes {α : Type} (read : Reader α) : Prop :=
  ∀ s a rest, read s = .ok (a, rest) → rest.length < s.length

variable {α β : Type} {s t rest mark : Text} {c : Char} {n m : Nat}

theorem bind_eq_ok_iff {x : Except Fault α} {f : α → Except Fault β} {b : β} :
    x >>= f = .ok b ↔ ∃ a, x = .ok a ∧ f a = .ok b := by
  cases x <;> simp [bind, Except.bind]

theorem bind_congr {x : Except Fault α} {f g : α → Except Fault β}
    (h : ∀ a, x = .ok a → f a = g a) : x >>= f = x >>= g := by
  cases x
  case error => rfl
  case ok a  => exact h a rfl

theorem map_eq_ok_iff {x : Except Fault α} {f : α → β} {b : β} :
    x.map f = .ok b ↔ ∃ a, x = .ok a ∧ f a = b := by
  cases x <;> simp [Except.map]

theorem Takes.length_map_lt {read : Reader α} (ht : Takes read) {f : α → β} {b : β}
    (h : ((read s).map fun (a, r) => (f a, r)) = .ok (b, rest)) : rest.length < s.length := by
  obtain ⟨⟨a, r⟩, hr, he⟩ := map_eq_ok_iff.mp h
  cases he
  exact ht _ _ _ hr

theorem length_skip_le (s : Text) : (skip s).length ≤ s.length :=
  (List.dropWhile_suffix _).length_le

theorem length_skipLines_le {inComment : Bool} (h : skipLines inComment s = .ok rest) :
    rest.length ≤ s.length := by
  induction s generalizing inComment
  case nil => simp_all [skipLines]
  case cons c s hi =>
    rw [skipLines] at h
    split at h
    case isTrue => exact Nat.le_succ_of_le (hi h)
    split at h
    case isTrue =>
      split at h
      case isTrue  => contradiction
      case isFalse => exact Nat.le_succ_of_le (hi h)
    split at h
    case isTrue => exact Nat.le_succ_of_le (hi h)
    split at h
    case isTrue  => exact Nat.le_succ_of_le (hi h)
    case isFalse => cases h; exact Nat.le_refl _

theorem length_skipComment_le (h : skipComment s = .ok rest) : rest.length ≤ s.length := by
  unfold skipComment at h
  split at h
  case h_1 s =>
    simp only at h
    split at h
    case isTrue  => contradiction
    case isFalse =>
      cases h
      exact Nat.le_succ_of_le (List.dropWhile_suffix _).length_le
  case h_2 =>
    cases h
    exact Nat.le_refl _

theorem exists_of_push {r : Except Fault (Text × Text)} (h : push c r = .ok (t, rest)) :
    ∃ t', r = .ok (t', rest) := by
  obtain ⟨⟨t', rest'⟩, hr, he⟩ := map_eq_ok_iff.mp h
  cases he
  exact ⟨t', hr⟩

theorem takes_basic (lines : Bool) (k : Nat) : Takes (basic lines k) := by
  intro s
  induction s generalizing k
  case nil =>
    intro t rest h
    cases k <;> contradiction
  case cons c s hi =>
    intro t rest h
    have pushed {d : Char} {j : Nat} (h : push d (basic lines j s) = .ok (t, rest)) :
        rest.length < (c :: s).length := by
      obtain ⟨_, hb⟩ := exists_of_push h
      exact Nat.lt_succ_of_lt (hi j _ _ hb)
    cases k
    case succ k => exact Nat.lt_succ_of_lt (hi k _ _ h)
    case zero   =>
      rw [basic] at h
      split at h
      case isTrue =>
        split at h
        case isTrue => cases h; exact Nat.lt_succ_self _
        split at h
        case isTrue =>
          cases h
          exact Nat.lt_succ_of_le (List.drop_suffix 2 s).length_le
        case isFalse => exact pushed h
      split at h
      case isTrue =>
        split at h
        case h_1 => exact Nat.lt_succ_of_lt (hi _ _ _ h)
        case h_2 => exact pushed h
        case h_3 => contradiction
      split at h
      case isTrue  => contradiction
      case isFalse => exact pushed h

theorem length_cutAt?_lt (hm : mark ≠ []) (h : cutAt? mark s = some (t, rest)) :
    rest.length < s.length := by
  have hm := List.length_pos_iff.mpr hm
  induction s generalizing t
  case nil         => contradiction
  case cons c s hi =>
    rw [cutAt?] at h
    split at h
    case isTrue =>
      cases h
      rw [List.length_drop, List.length_cons]
      omega
    case isFalse =>
      obtain ⟨⟨t', rest'⟩, hc, he⟩ := Option.map_eq_some_iff.mp h
      cases he
      exact Nat.lt_succ_of_lt (hi hc)

theorem takes_literal (lines : Bool) (hm : mark ≠ []) : Takes (literal lines mark) := by
  intro s t rest h
  rw [literal] at h
  split at h
  case h_1 => contradiction
  case h_2 hc =>
    split at h
    case isTrue  => contradiction
    case isFalse => cases h; exact length_cutAt?_lt hm hc

theorem takes_quotedLine (c : Char) : Takes (quotedLine c) := by
  rw [quotedLine]
  split
  case isTrue  => exact takes_basic false 0
  case isFalse => exact takes_literal false (List.cons_ne_nil _ _)

theorem takes_quotedLines (c : Char) : Takes (quotedLines c) := by
  intro s t rest h
  have hs : (if s.head? = some '\n' then s.tail else s).length ≤ s.length := by
    split
    case isTrue  => exact (List.tail_suffix s).length_le
    case isFalse => exact Nat.le_refl _
  -- The marks that belong to the text only shorten what is left.
  have left {r : Text} (hr : r.length < (if s.head? = some '\n' then s.tail else s).length) :
      (r.drop ((r.take 2).takeWhile (· == c)).length).length < s.length :=
    Nat.lt_of_le_of_lt (List.drop_suffix _ r).length_le (Nat.lt_of_lt_of_le hr hs)
  rw [quotedLines] at h
  split at h
  case isTrue =>
    obtain ⟨⟨t', r⟩, hr, he⟩ := bind_eq_ok_iff.mp h
    cases he
    exact left (takes_basic true 0 _ _ _ hr)
  case isFalse =>
    obtain ⟨⟨t', r⟩, hr, he⟩ := bind_eq_ok_iff.mp h
    cases he
    exact left (takes_literal true (List.cons_ne_nil _ _) _ _ _ hr)

theorem takes_quoted (c : Char) : Takes (quoted c) := by
  intro s t rest h
  rw [quoted] at h
  split at h
  case isTrue  =>
    exact Nat.lt_of_lt_of_le (takes_quotedLines c _ _ _ h) (List.drop_suffix 2 s).length_le
  case isFalse => exact takes_quotedLine c _ _ _ h

theorem takes_keyPart : Takes keyPart := by
  intro s t rest h
  cases s
  case nil      => contradiction
  case cons c s =>
    rw [keyPart] at h
    split at h
    case isTrue => exact Nat.lt_succ_of_lt (takes_quotedLine c _ _ _ h)
    split at h
    case isTrue hc =>
      cases h
      rw [List.dropWhile_cons_of_pos hc]
      exact Nat.lt_succ_of_le (List.dropWhile_suffix _).length_le
    case isFalse => contradiction

theorem takes_key (n : Nat) : Takes (key n) := by
  induction n
  case zero => exact fun _ _ _ h => nomatch h
  case succ n hi =>
    intro s k rest h
    obtain ⟨⟨part, r⟩, hp, h⟩ := bind_eq_ok_iff.mp h
    have hr := takes_keyPart _ _ _ hp
    have hs := length_skip_le r
    simp only at h
    split at h
    case h_1 r' hd =>
      have := hi.length_map_lt h
      have := length_skip_le r'
      rw [hd, List.length_cons] at hs
      omega
    case h_2 => cases h; omega

theorem key_nil (n : Nat) : key n [] = .error .malformed := by
  cases n <;> rfl

-- The number is no bound if it is not less than the length of the text.
theorem key_of_le (hn : s.length ≤ n) (hm : s.length ≤ m) : key n s = key m s := by
  induction n generalizing m s
  case zero =>
    rw [List.length_eq_zero_iff.mp (Nat.le_zero.mp hn), key_nil, key_nil]
  case succ n hi =>
    cases m
    case zero =>
      rw [List.length_eq_zero_iff.mp (Nat.le_zero.mp hm), key_nil, key_nil]
    case succ m =>
      refine bind_congr fun ⟨part, r⟩ hp => ?_
      have hr := takes_keyPart _ _ _ hp
      have hs := length_skip_le r
      simp only
      split
      case h_1 r' hd =>
        have := length_skip_le r'
        rw [hd, List.length_cons] at hs
        rw [hi (m := m) (by omega) (by omega)]
      case h_2 => rfl

end MemoBase.Toml
