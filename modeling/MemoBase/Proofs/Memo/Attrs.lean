import Mathlib.Data.List.Induction
import Mathlib.Data.List.Nodup
import MemoBase.Memo.Attrs

namespace MemoBase.Attrs

variable {as : Attrs} {ps : List (Text × Value)} {key : Text} {v : Value}

theorem set_of_not_mem (h : key ∉ as.map (·.1)) : as.set key v = as ++ [(key, v)] := by
  induction as
  case nil => rfl
  case cons a as hi =>
    simp only [List.map_cons, List.mem_cons, not_or] at h
    simp [set, Ne.symm h.left, hi h.right]

theorem keys_set_of_mem (h : key ∈ as.map (·.1)) : (as.set key v).map (·.1) = as.map (·.1) := by
  induction as
  case nil => contradiction
  case cons a as hi =>
    by_cases ha : a.1 = key
    case pos => simp [set, ha]
    case neg => simpa [set, ha] using hi ((List.mem_cons.mp h).resolve_left (Ne.symm ha))

theorem mem_of_mem_set {a : Text × Value} (h : a ∈ as.set key v) : a = (key, v) ∨ a ∈ as := by
  induction as
  case nil => exact .inl (List.mem_singleton.mp h)
  case cons b as hi =>
    rw [set] at h
    split at h
    case isTrue => exact (List.mem_cons.mp h).imp_right (List.mem_cons_of_mem b)
    case isFalse =>
      rcases List.mem_cons.mp h with h | h
      case inl => exact .inr (h ▸ List.mem_cons_self)
      case inr => exact (hi h).imp_right (List.mem_cons_of_mem b)

theorem get?_cons {a : Text × Value} {k : Text} :
    get? k (a :: as) = if a.1 = k then some a.2 else get? k as := by
  obtain ⟨k', w⟩ := a
  by_cases hk : k = k'
  case pos => simp [get?, hk]
  case neg => simp [get?, List.lookup_cons, beq_false_of_ne hk, Ne.symm hk]

theorem get?_set_self (as : Attrs) (key : Text) (v : Value) : (as.set key v).get? key = some v := by
  induction as
  case nil => simp [set, get?_cons]
  case cons a as hi =>
    rw [set]
    split
    case isTrue    => simp [get?_cons]
    case isFalse h => simp [get?_cons, h, hi]

theorem get?_set_of_ne {k : Text} (h : k ≠ key) : (as.set key v).get? k = as.get? k := by
  induction as
  case nil => simp [set, get?_cons, h.symm]
  case cons a as hi =>
    rw [set]
    split
    case isTrue ha => simp [get?_cons, ha, h.symm]
    case isFalse   => simp [get?_cons, hi]

theorem nodup_set (h : (as.map (·.1)).Nodup) : ((as.set key v).map (·.1)).Nodup := by
  by_cases hm : key ∈ as.map (·.1)
  case pos => rwa [keys_set_of_mem hm]
  case neg =>
    rw [set_of_not_mem hm, List.map_append, List.map_singleton, ← List.concat_eq_append]
    exact h.concat hm

theorem nodup_ofPairs (ps : List (Text × Value)) : ((ofPairs ps).map (·.1)).Nodup := by
  refine List.foldlRecOn ps _ (motive := fun as : Attrs => (as.map (·.1)).Nodup) ?nil ?set
  case nil => exact List.nodup_nil
  case set => exact fun as h p _ => nodup_set h

theorem mem_of_mem_ofPairs : ∀ a ∈ ofPairs ps, a ∈ ps := by
  refine List.foldlRecOn ps _ (motive := fun as : Attrs => ∀ a ∈ as, a ∈ ps) nofun ?_
  intro as h p hp a ha
  cases mem_of_mem_set ha
  case inl ha => exact ha ▸ hp
  case inr ha => exact h a ha

theorem ofPairs_eq_self (h : (as.map (·.1)).Nodup) : ofPairs as = as := by
  suffices ∀ bs : Attrs, ((bs ++ as).map (·.1)).Nodup →
      as.foldl (fun as p => as.set p.1 p.2) bs = bs ++ as from this [] h
  induction as
  case nil => simp
  case cons a as hi =>
    intro bs hb
    have ha : a.1 ∉ bs.map (·.1) := by
      intro hm
      rw [List.map_append, List.nodup_append] at hb
      exact hb.right.right _ hm _ List.mem_cons_self rfl
    have he : bs ++ a :: as = (bs ++ [a]) ++ as := by simp
    rw [List.foldl_cons, set_of_not_mem ha, he]
    exact hi (List.nodup_cons.mp h).right (bs ++ [a]) (he ▸ hb)

theorem ofPairs_concat (ps : List (Text × Value)) (key : Text) (v : Value) :
    ofPairs (ps ++ [(key, v)]) = (ofPairs ps).set key v := by
  simp [ofPairs]

theorem keys_set : (as.set key v).map (·.1) =
    if key ∈ as.map (·.1) then as.map (·.1) else as.map (·.1) ++ [key] := by
  split
  case isTrue h  => exact keys_set_of_mem h
  case isFalse h => rw [set_of_not_mem h, List.map_append, List.map_singleton]

-- The keys stand in the order in which they were first assigned.
theorem keys_ofPairs (ps : List (Text × Value)) :
    (ofPairs ps).map (·.1) = (ps.map (·.1)).eraseDups := by
  induction ps using List.reverseRecOn
  case nil => rfl
  case append_singleton ps a hi =>
    rw [ofPairs_concat, keys_set, hi, List.map_append, List.eraseDups_append]
    by_cases ha : a.1 ∈ ps.map (·.1) <;> simp_all [List.removeAll, List.eraseDups_cons]

-- The value of a key is the one that was assigned last.
theorem get?_ofPairs (ps : List (Text × Value)) (key : Text) :
    (ofPairs ps).get? key = ps.reverse.lookup key := by
  induction ps using List.reverseRecOn
  case nil => rfl
  case append_singleton ps a hi =>
    have hr : (ps ++ [a]).reverse = a :: ps.reverse := List.reverse_concat
    have hc : (a :: ps.reverse).lookup key = if a.1 = key then some a.2 else ps.reverse.lookup key :=
      get?_cons
    rw [ofPairs_concat, hr, hc]
    split
    case isTrue hk  => exact hk ▸ get?_set_self ..
    case isFalse hk => exact (get?_set_of_ne (Ne.symm hk)).trans hi

-- Distinct keys in the order in which they were first assigned, with the values they were last given.
structure Assigned (as : Attrs) (ps : List (Text × Value)) : Prop where
  distinct : (as.map (·.1)).Nodup
  order    : as.map (·.1) = (ps.map (·.1)).eraseDups
  value    : ∀ key, as.get? key = ps.reverse.lookup key

theorem assigned_ofPairs (ps : List (Text × Value)) : Assigned (ofPairs ps) ps where
  distinct := nodup_ofPairs ps
  order    := keys_ofPairs ps
  value    := get?_ofPairs ps

end MemoBase.Attrs
