import MemoBase.Proofs.Text.Cut
import MemoBase.Text.Pattern

namespace MemoBase.Pattern

open Text

variable {γ β : Type} {p : Char → Bool} {a b c : Pattern γ} {s w r : Text} {d : Char}
  {k : Way γ → Option β}

-- What the ways of the pattern lead to, taken from the first one that leads to anything.
def first (a : Pattern γ) (s : Text) (k : Way γ → Option β) : Option β :=
  (a.ways s).findSome? k

theorem fullMatch?_eq_first :
    a.fullMatch? s = a.first s fun w => if w.rest = [] then some w.groups else none := by
  rw [fullMatch?, first]
  induction a.ways s
  case nil => rfl
  case cons w ws hi => by_cases h : w.rest = [] <;> simp [h, hi]

@[simp]
theorem first_skip : (skip : Pattern γ).first s k = k ⟨[], [], s⟩ := by
  simp [first, ways]

@[simp]
theorem first_one_nil : (one p : Pattern γ).first [] k = none :=
  rfl

@[simp]
theorem first_one_cons :
    (one p : Pattern γ).first (d :: s) k = if p d then k ⟨[d], [], s⟩ else none := by
  by_cases h : p d <;> simp [first, ways, h]

theorem first_seq :
    (seq a b).first s k = a.first s fun w => b.first w.rest fun v => k (w.append v) := by
  simp only [first, ways]
  induction a.ways s
  case nil => rfl
  case cons w ws hi =>
    simp [List.findSome?_append, List.findSome?_map, List.findSome?_cons, hi, Function.comp_def]
    cases List.findSome? (fun v => k (w.append v)) (b.ways w.rest) <;> rfl

theorem first_alt : (alt a b).first s k = (a.first s k).or (b.first s k) :=
  List.findSome?_append

theorem first_optional : (optional a).first s k = (a.first s k).or (k ⟨[], [], s⟩) := by
  rw [Pattern.optional, first_alt, first_skip]

@[simp]
theorem first_oneOrMore_cons :
    (oneOrMore p : Pattern γ).first (d :: s) k =
      if p d then (many p).first s fun w => k ⟨d :: w.taken, w.groups, w.rest⟩ else none := by
  rw [oneOrMore, first_seq, first_one_cons]
  rfl

theorem first_group {n : γ} :
    (group n a).first s k = a.first s fun w => k { w with groups := (n, w.taken) :: w.groups } :=
  List.findSome?_map

theorem fullMatch?_seq :
    (seq a b).fullMatch? s = a.first s fun w => (b.fullMatch? w.rest).map (w.groups ++ ·) := by
  simp only [fullMatch?_eq_first, first_seq]
  refine congrArg (a.first s) (funext fun w => ?_)
  rw [first, first, List.map_findSome?]
  refine congrArg (List.findSome? · _) (funext fun v => ?_)
  by_cases h : v.rest = [] <;> simp [Way.append, h]

section Runs

-- All runs but the longest one stop in front of a character that has the property.
theorem exists_runs_eq (p : Char → Bool) (s : Text) :
    ∃ ws, runs p s = (s.takeWhile p, s.dropWhile p) :: ws ∧
      ∀ w ∈ ws, w.1 ++ w.2 = s ∧ (∀ c ∈ w.1, p c) ∧ ∃ c r, w.2 = c :: r ∧ p c := by
  induction s
  case nil => exact ⟨[], rfl, nofun⟩
  case cons c s hi =>
    by_cases hc : p c
    case neg => exact ⟨[], by simp [runs, hc], nofun⟩
    case pos =>
      obtain ⟨ws, hr, hw⟩ := hi
      refine ⟨ws.map (fun w => (c :: w.1, w.2)) ++ [([], c :: s)], by simp [runs, hc, hr], ?_⟩
      refine List.forall_mem_append.mpr ⟨List.forall_mem_map.mpr fun w hm => ?_, ?_⟩
      case refine_1 =>
        have ⟨hs, hp, he⟩ := hw w hm
        exact ⟨congrArg (c :: ·) hs, List.forall_mem_cons.mpr ⟨hc, hp⟩, he⟩
      case refine_2 => exact List.forall_mem_singleton.mpr ⟨rfl, nofun, c, s, rfl, hc⟩

theorem first_many
    (h : k ⟨s.takeWhile p, [], s.dropWhile p⟩ = none →
      ∀ w c r, w ++ c :: r = s → (∀ c ∈ w, p c) → p c → k ⟨w, [], c :: r⟩ = none) :
    (many p : Pattern γ).first s k = k ⟨s.takeWhile p, [], s.dropWhile p⟩ := by
  obtain ⟨ws, hr, hw⟩ := exists_runs_eq p s
  rw [first, ways, hr, List.map_cons, List.findSome?_cons]
  cases hk : k ⟨s.takeWhile p, [], s.dropWhile p⟩
  case some => rfl
  case none =>
    rw [List.findSome?_map]
    refine List.findSome?_eq_none_iff.mpr fun v hv => ?_
    obtain ⟨hs, hp, c, r, he, hc⟩ := hw v hv
    have := h hk v.1 c r (he ▸ hs) hp hc
    rwa [Function.comp_apply, he]

-- Nothing is given back if what follows cannot begin with such a character.
theorem first_many_of_refused (h : ∀ w c r, w ++ c :: r = s → p c → k ⟨w, [], c :: r⟩ = none) :
    (many p : Pattern γ).first s k = k ⟨s.takeWhile p, [], s.dropWhile p⟩ :=
  first_many fun _ w c r hs _ hc => h w c r hs hc

theorem first_few (hs : ∀ c ∈ s, p c) (h : ∀ w c r, w ++ c :: r = s → k ⟨w, [], c :: r⟩ = none) :
    (few p : Pattern γ).first s k = k ⟨s, [], []⟩ := by
  obtain ⟨ws, hr, hw⟩ := exists_runs_eq p s
  have ht : s.takeWhile p = s := List.takeWhile_eq_self_iff.mpr hs
  have hd : s.dropWhile p = [] := List.dropWhile_eq_nil_iff.mpr hs
  have hn : ws.reverse.findSome? (k ∘ fun w => ⟨w.1, [], w.2⟩) = none := by
    refine List.findSome?_eq_none_iff.mpr fun v hv => ?_
    obtain ⟨hs, _, c, r, he, _⟩ := hw v (List.mem_reverse.mp hv)
    have := h v.1 c r (he ▸ hs)
    rwa [Function.comp_apply, he]
  rw [first, ways, hr, List.findSome?_map, List.reverse_cons, List.findSome?_append, hn, ht, hd]
  simp

end Runs

end MemoBase.Pattern
