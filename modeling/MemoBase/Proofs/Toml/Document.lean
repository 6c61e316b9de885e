import MemoBase.Toml.Document
import MemoBase.Proofs.Toml.Plain

namespace MemoBase.Toml

variable {s rest : Text} {n m : Nat} {d : Document}

section Nests

variable {read read' : Reader Value} {fixed : List Key} {ps : Table}

theorem takes_elements (hv : Takes read) (n : Nat) : Takes (elements read n) := by
  induction n
  case zero => exact fun _ _ _ h => nomatch h
  case succ n hi =>
    intro s vs rest h
    obtain ⟨r, hr, h⟩ := bind_eq_ok_iff.mp h
    have hr := length_skipLines_le hr
    split at h
    case h_1 => cases h; exact Nat.lt_of_succ_le hr
    case h_2 =>
      obtain ⟨⟨v, r'⟩, hv', h⟩ := bind_eq_ok_iff.mp h
      have hv' := hv _ _ _ hv'
      obtain ⟨r'', hr'', h⟩ := bind_eq_ok_iff.mp h
      have hr'' := length_skipLines_le hr''
      split at h
      case h_1 => cases h; simp only [List.length_cons] at hr''; omega
      case h_2 =>
        have := hi.length_map_lt h
        simp only [List.length_cons] at hr''
        omega
      case h_3 => contradiction

theorem takes_pair (hv : Takes read) (n : Nat) : Takes (pair read n) := by
  intro s p rest h
  rw [pair] at h
  obtain ⟨⟨k, r⟩, hk, h⟩ := bind_eq_ok_iff.mp h
  have hk := takes_key n _ _ _ hk
  split at h
  case h_2 => contradiction
  case h_1 k r' he =>
    cases he
    have := hv.length_map_lt h
    have := length_skip_le r'
    simp only [List.length_cons] at hk
    omega

theorem takes_entries (hv : Takes read) (n : Nat) : Takes (entries read fixed ps n) := by
  induction n generalizing fixed ps
  case zero => exact fun _ _ _ h => nomatch h
  case succ n hi =>
    intro s qs rest h
    obtain ⟨⟨⟨k, v⟩, r⟩, hp, h⟩ := bind_eq_ok_iff.mp h
    have hp := takes_pair hv n _ _ _ hp
    have hr := length_skip_le r
    simp only at h
    split at h
    case isTrue => contradiction
    case isFalse =>
      obtain ⟨ps', _, h⟩ := bind_eq_ok_iff.mp h
      split at h
      case h_1 hs =>
        cases h
        simp only [hs, List.length_cons] at hr
        omega
      case h_2 r' hs =>
        have := hi _ _ _ h
        have := length_skip_le r'
        simp only [hs, List.length_cons] at hr
        omega
      case h_3 => contradiction

theorem takes_inlineTable (hv : Takes read) (n : Nat) : Takes (inlineTable read n) := by
  intro s ps rest h
  have hr := length_skip_le s
  rw [inlineTable] at h
  split at h
  case h_1 hs => cases h; rw [hs] at hr; exact Nat.lt_of_succ_le hr
  case h_2    => exact Nat.lt_of_lt_of_le (takes_entries hv n _ _ _ h) hr

-- Readers that agree on the shorter texts.
variable (he : ∀ t, t.length ≤ s.length → read t = read' t)

include he

theorem pair_congr (hn : s.length ≤ n) (hm : s.length ≤ m) : pair read n s = pair read' m s := by
  rw [pair, pair, key_of_le hn hm]
  refine bind_congr fun ⟨k, r⟩ hk => ?_
  have hk := takes_key m _ _ _ hk
  split
  case h_2 => rfl
  case h_1 r' h =>
    cases h
    have := length_skip_le r'
    simp only [List.length_cons] at hk
    rw [he _ (by omega)]

variable (hv : Takes read) (hn : s.length < n) (hm : s.length < m)

include hv hn hm

theorem elements_congr : elements read n s = elements read' m s := by
  induction n generalizing m s
  case zero => contradiction
  case succ n hi =>
    cases m
    case zero   => contradiction
    case succ m =>
      refine bind_congr fun r hr => ?_
      have hr := length_skipLines_le hr
      split
      case h_1 => rfl
      case h_2 =>
        rw [← he _ hr]
        refine bind_congr fun ⟨v, r'⟩ hv' => ?_
        have hv' := hv _ _ _ hv'
        refine bind_congr fun r'' hr'' => ?_
        have hr'' := length_skipLines_le hr''
        split
        case h_1 => rfl
        case h_2 =>
          simp only [List.length_cons] at hr''
          rw [hi (m := m) (fun t ht => he t (by omega)) (by omega) (by omega)]
        case h_3 => rfl

theorem entries_congr : entries read fixed ps n s = entries read' fixed ps m s := by
  induction n generalizing m s fixed ps
  case zero => contradiction
  case succ n hi =>
    cases m
    case zero   => contradiction
    case succ m =>
      rw [entries, entries, ← pair_congr he (Nat.le_of_lt_succ hn) (Nat.le_of_lt_succ hm)]
      refine bind_congr fun ⟨⟨k, v⟩, r⟩ hp => ?_
      have hp := takes_pair hv n _ _ _ hp
      have hr := length_skip_le r
      simp only
      split
      case isTrue => rfl
      case isFalse =>
        refine bind_congr fun ps' _ => ?_
        split
        case h_1 => rfl
        case h_2 r' hs =>
          have := length_skip_le r'
          simp only [hs, List.length_cons] at hr
          exact hi (fun t ht => he t (by omega)) (by omega) (by omega)
        case h_3 => rfl

theorem inlineTable_congr : inlineTable read n s = inlineTable read' m s := by
  have hr := length_skip_le s
  rw [inlineTable, inlineTable]
  split
  case h_1 => rfl
  case h_2 => exact entries_congr (fun t ht => he t (by omega)) hv (by omega) (by omega)

end Nests

theorem takes_value (n : Nat) : Takes (value n) := by
  induction n
  case zero => exact fun _ _ _ h => nomatch h
  case succ n hi =>
    intro s v rest h
    cases s
    case nil      => contradiction
    case cons c s =>
      rw [value] at h
      split at h
      case isTrue => exact Nat.lt_succ_of_lt ((takes_quoted c).length_map_lt h)
      split at h
      case isTrue => exact Nat.lt_succ_of_lt ((takes_elements hi n).length_map_lt h)
      split at h
      case isTrue  => exact Nat.lt_succ_of_lt ((takes_inlineTable hi n).length_map_lt h)
      case isFalse => exact takes_plain _ _ _ h

theorem value_of_lt (hn : s.length < n) (hm : s.length < m) : value n s = value m s := by
  induction n generalizing m s
  case zero => contradiction
  case succ n hi =>
    cases m
    case zero   => contradiction
    case succ m =>
      cases s
      case nil      => rfl
      case cons c s =>
        have hn := Nat.lt_of_succ_lt_succ hn
        have hm := Nat.lt_of_succ_lt_succ hm
        have he (t : Text) (ht : t.length ≤ s.length) : value n t = value m t :=
          hi (Nat.lt_of_le_of_lt ht hn) (Nat.lt_of_le_of_lt ht hm)
        rw [value, value, elements_congr he (takes_value n) hn hm,
          inlineTable_congr he (takes_value n) hn hm]

theorem takes_header {closing : Text} {put : Key → Except Fault Document} :
    Takes (header n closing put) := by
  intro s d rest h
  rw [header] at h
  obtain ⟨⟨k, r⟩, hk, h⟩ := bind_eq_ok_iff.mp h
  obtain ⟨d', _, h⟩ := bind_eq_ok_iff.mp h
  have := takes_key n _ _ _ hk
  have := length_skip_le s
  split at h
  case isFalse => contradiction
  case isTrue  =>
    cases h
    have := (List.drop_suffix closing.length r).length_le
    omega

theorem header_congr {closing : Text} {put : Key → Except Fault Document} (hn : s.length ≤ n)
    (hm : s.length ≤ m) : header n closing put s = header m closing put s := by
  have hs := length_skip_le s
  rw [header, header, key_of_le (Nat.le_trans hs hn) (Nat.le_trans hs hm)]

-- A comment is left for what follows.
theorem length_statement_le {d' : Document} (h : statement n d s = .ok (d', rest)) :
    rest.length ≤ s.length := by
  rw [statement.eq_def] at h
  split at h
  case h_1 s => exact Nat.le_of_lt (Nat.lt_succ_of_lt (Nat.lt_succ_of_lt (takes_header _ _ _ h)))
  case h_2 s => exact Nat.le_of_lt (Nat.lt_succ_of_lt (takes_header _ _ _ h))
  case h_3   => cases h; exact Nat.le_refl _
  case h_4   =>
    obtain ⟨⟨⟨k, v⟩, r⟩, hp, h⟩ := bind_eq_ok_iff.mp h
    obtain ⟨d', _, h⟩ := bind_eq_ok_iff.mp h
    cases h
    exact Nat.le_of_lt (takes_pair (takes_value n) n _ _ _ hp)

theorem statement_of_lt (hn : s.length < n) (hm : s.length < m) :
    statement n d s = statement m d s := by
  rw [statement.eq_def, statement.eq_def]
  split
  case h_1 =>
    simp only [List.length_cons] at hn hm
    exact header_congr (by omega) (by omega)
  case h_2 =>
    simp only [List.length_cons] at hn hm
    exact header_congr (by omega) (by omega)
  case h_3 => rfl
  case h_4 =>
    have he (t : Text) (ht : t.length ≤ s.length) : value n t = value m t :=
      value_of_lt (Nat.lt_of_le_of_lt ht hn) (Nat.lt_of_le_of_lt ht hm)
    rw [pair_congr he (Nat.le_of_lt hn) (Nat.le_of_lt hm)]

theorem statements_of_lt (hn : s.length + 1 < n) (hm : s.length + 1 < m) :
    statements n d s = statements m d s := by
  induction n generalizing m s d
  case zero => contradiction
  case succ n hi =>
    cases m
    case zero   => contradiction
    case succ m =>
      have hs := length_skip_le s
      rw [statements, statements]
      split
      case h_1 => rfl
      case h_2 s' hk =>
        rw [hk, List.length_cons] at hs
        exact hi (by omega) (by omega)
      case h_3 =>
        rw [statement_of_lt (n := n) (m := m) (by omega) (by omega)]
        refine bind_congr fun ⟨d', rest⟩ hd => ?_
        refine bind_congr fun r hr => ?_
        have := length_statement_le hd
        have := length_skip_le rest
        have := length_skipComment_le hr
        split
        case h_1 => rfl
        case h_2 r =>
          rw [List.length_cons] at this
          exact hi (by omega) (by omega)
        case h_3 => rfl

-- No document is too long for the numbers that bound the loops.
theorem ofText_eq_of_lt (h : s.unifyBreaks.length + 1 < n) :
    ofText s = (statements n {} s.unifyBreaks).map (·.table) := by
  rw [ofText, statements_of_lt (Nat.lt_succ_self _) h]

end MemoBase.Toml
