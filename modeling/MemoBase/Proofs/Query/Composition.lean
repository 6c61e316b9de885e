import MemoBase.Proofs.Query.Overrun

namespace MemoBase.Query

open Text

variable {s t r : Text} {e : Stop} {f : NodeFilter} {fs : List NodeFilter}

section Rests

theorem rest_of_key (h : key s = .error e) : e.rest = s := by
  simp only [key] at h
  split at h <;> cases h
  rfl

theorem rest_of_index (h : index s = .error e) : e.rest = s := by
  simp only [index] at h
  split at h
  case h_2 => contradiction
  case h_1 =>
    split at h
    case h_1 => cases h; rfl
    case h_2 => split at h <;> cases h; rfl

theorem rest_of_operand (h : operand s = .error e) : e.rest = s := by
  simp only [operand] at h
  split at h <;> split at h <;> cases h <;> rfl

theorem rest_of_test (h : test s = .error e) :
    ∃ op t, s = Operator.text op ++ t ∧ e.rest = t.trimLeft := by
  simp only [test] at h
  split at h
  case h_1 => contradiction
  case h_2 op t hop =>
    refine ⟨op, t, Operator.text_append_of_read? hop, ?_⟩
    split at h
    case h_1 ho =>
      cases h
      exact rest_of_operand ho
    case h_2 => split at h <;> cases h; rfl

theorem suffix_of_test (h : test s = .error e) : e.rest <:+ s := by
  obtain ⟨op, t, rfl, he⟩ := rest_of_test h
  exact he ▸ (trimLeft_suffix t).trans (List.suffix_append ..)

theorem suffix_of_condition (h : condition s = .error e) : e.rest <:+ s := by
  rw [← Condition.text_append_scope s]
  refine List.IsSuffix.trans ?_ (List.suffix_append ..)
  rcases condition_eq_error_iff.mp h with hk | ⟨k, t, hk, h⟩
  case inl => exact rest_of_key hk ▸ List.suffix_rfl
  case inr =>
    obtain ⟨_, ht⟩ := Condition.exists_of_key hk
    rw [ht]
    refine List.IsSuffix.trans ?_ (List.suffix_append ..)
    rcases h with hi | ⟨f, u, hi, ht⟩
    case inl => exact rest_of_index hi ▸ List.suffix_rfl
    case inr =>
      obtain ⟨_, _, _, hu⟩ := Index.exists_of_index hi
      exact hu ▸ (suffix_of_test ht).trans ((trimLeft_suffix u).trans (List.suffix_append ..))

theorem suffix_of_condition_ok (h : condition s = .ok (f, r)) : r <:+ s := by
  obtain ⟨c, g, _, _, hs⟩ := Condition.exists_of_condition h
  exact ⟨c.text ++ g.text, by rw [hs, List.append_assoc]⟩

theorem suffix_of_conditions (h : conditions s = .error e) : e.rest <:+ s := by
  fun_induction conditions s
  case case1 hc =>
    cases h
    exact suffix_of_condition hc
  case case2 => contradiction
  case case3 s f r hc t hr ih =>
    have hs : trimLeft t <:+ r.trimLeft := hr ▸ (trimLeft_suffix t).trans (List.suffix_cons ..)
    cases ht : conditions (trimLeft t) <;> simp only [ht, Except.map] at h <;> cases h
    case error =>
      have hr : r.trimLeft <:+ s := (trimLeft_suffix r).trans (suffix_of_condition_ok hc)
      exact (ih ht).trans (hs.trans hr)
  case case4 s f r hc c t _ hr =>
    cases h
    exact hr ▸ (trimLeft_suffix r).trans (suffix_of_condition_ok hc)

-- A query of blanks is reported at its end.
theorem suffix_of_read (h : read s = .error e) : e.rest <:+ s := by
  rw [read] at h
  split at h
  case isTrue =>
    cases h
    exact List.nil_suffix
  case isFalse => exact (suffix_of_conditions h).trans (trimLeft_suffix s)

end Rests

section Commas

theorem trimLeft_comma (t : Text) : trimLeft (',' :: t) = ',' :: t :=
  dropWhile_eq_self comma_stops

theorem Ends.append_comma (h : Ends r) (t : Text) : Ends (r ++ ',' :: t) := by
  rw [Ends, trimLeft_append, trimLeft_comma]
  split
  case isTrue     => simp
  case isFalse hr => rwa [List.head?_append_of_ne_nil _ hr]

theorem conditions_of_comma (hc : condition s = .ok (f, r)) (hr : r.trimLeft = ',' :: t) :
    conditions s = (conditions (trimLeft t)).map (f :: ·) := by
  rw [conditions]
  split
  case h_1 h => simp [hc] at h
  case h_2 h =>
    cases hc.symm.trans h
    split <;> simp_all

theorem condition_append_comma (h : condition s = .ok (f, r)) (hr : Ends r) (t : Text) :
    ∃ r', condition (s ++ ',' :: t) = .ok (f, r') ∧ r'.trimLeft = (r ++ ',' :: t).trimLeft := by
  obtain ⟨c, g, hi, hf, hs⟩ := Condition.exists_of_condition h
  have he : Ends (g.text ++ (r ++ ',' :: t)) := by
    rw [Ends, g.trimLeft_append]
    exact hr.append_comma t
  obtain ⟨r', hc, ht⟩ := c.condition_append hi he
  refine ⟨r', ?_, ht.trans g.trimLeft_append⟩
  rw [← hf, ← hc, hs, List.append_assoc, List.append_assoc]

theorem ne_nil_of_conditions (h : conditions s = .ok fs) : s ≠ [] := by
  obtain ⟨_, _, hc, _⟩ := conditions_eq_ok_iff.mp h
  exact List.ne_nil_of_length_pos (Nat.zero_lt_of_lt (length_condition_lt hc))

theorem conditions_append_comma (h : conditions s = .ok fs) (t : Text) :
    conditions (s ++ ',' :: t) = (conditions t.trimLeft).map (fs ++ ·) := by
  induction fs generalizing s
  case nil =>
    have := conditions_eq_ok_iff.mp h
    simp at this
  case cons f fs ih =>
    obtain ⟨f', r, hc, h⟩ := conditions_eq_ok_iff.mp h
    have he : Ends r := by rcases h with ⟨hr, _⟩ | ⟨_, _, hr, _⟩ <;> simp [Ends, hr]
    obtain ⟨r', hc, ht⟩ := condition_append_comma hc he t
    rw [trimLeft_append] at ht
    rcases h with ⟨hr, he⟩ | ⟨u, fs', hr, h, he⟩ <;> cases he
    case inl =>
      rw [if_pos hr, trimLeft_comma] at ht
      exact conditions_of_comma hc ht
    case inr =>
      have hu : trimLeft (u ++ ',' :: t) = trimLeft u ++ ',' :: t := by
        rw [trimLeft_append, if_neg (ne_nil_of_conditions h)]
      rw [if_neg (by simp [hr]), hr, List.cons_append] at ht
      rw [conditions_of_comma hc ht, hu, ih h]
      cases conditions t.trimLeft <;> rfl

theorem read_append_comma (h : read s = .ok fs) (ht : t.trimLeft ≠ []) :
    read (s ++ ',' :: t) = (read t).map (fs ++ ·) := by
  rw [read] at h
  split at h
  case isTrue     => contradiction
  case isFalse hs =>
    have hst : (s ++ ',' :: t).trimLeft = s.trimLeft ++ ',' :: t := by
      rw [trimLeft_append, if_neg hs]
    rw [read, read, hst, if_neg (by simp), if_neg ht, conditions_append_comma h]

end Commas

-- The query is named in the error, but has no part in its kind.
theorem Stop.error_eq (e : Stop) :
    (∃ n, ∀ s, e.error s = .longNumeral n) ∨
      ∀ s, e.error s = .malformed e.fault s (s.length - e.rest.length) := by
  obtain ⟨fault, rest⟩ := e
  cases fault
  case longNumeral n => exact .inl ⟨n, fun _ => rfl⟩
  all_goals exact .inr fun _ => rfl

end MemoBase.Query

namespace MemoBase.MemoFilter

open Query Text

variable {s t : Text} {f : MemoFilter}

theorem exists_read_of_ofQuery (h : ofQuery s = .ok f) : read s = .ok f.conditions := by
  rw [ofQuery] at h
  split at h <;> cases h
  assumption

-- The second query decides, and its faults are reported where they are in the whole.
theorem ofQuery_append_comma (hs : ofQuery s = .ok f) (ht : ∃ c ∈ t, isBlank c = false) :
    (∀ g, ofQuery t = .ok g → ofQuery (s ++ ',' :: t) = .ok ⟨f.conditions ++ g.conditions⟩) ∧
    (∀ fault query p, ofQuery t = .error (.malformed fault query p) →
      ofQuery (s ++ ',' :: t) = .error (.malformed fault (s ++ ',' :: t) (s.length + 1 + p))) ∧
    ∀ n, ofQuery t = .error (.longNumeral n) → ofQuery (s ++ ',' :: t) = .error (.longNumeral n) := by
  have hb : t.trimLeft ≠ [] := by
    obtain ⟨c, hc, hb⟩ := ht
    intro he
    simp [List.dropWhile_eq_nil_iff.mp he c hc] at hb
  have hr := read_append_comma (exists_read_of_ofQuery hs) hb
  rw [ofQuery, ofQuery, hr]
  cases h : read t
  case ok => simp [Except.map]
  case error e =>
    have hl := (suffix_of_read h).length_le
    rcases e.error_eq with ⟨n, he⟩ | he
    case inl => simp [Except.map, he]
    case inr =>
      simp only [Except.map, he]
      refine ⟨?compiled, ?malformed, ?long⟩
      case compiled => intro _ h; cases h
      case long     => intro _ h; cases h
      case malformed =>
        intro fault query p h
        cases h
        have hp : (s ++ ',' :: t).length - e.rest.length = s.length + 1 + (t.length - e.rest.length) := by
          rw [List.length_append, List.length_cons]
          omega
        rw [hp]

-- The first query ends with a quoted comma, the second one with a text where a number is wanted.
theorem ofQuery_append_comma_quoted :
    let s : Text := "@book, title='a,b' ".toList
    let t : Text := " year[0] , year<x".toList
    ofQuery s = .ok ⟨[{ scope := .header, key := .equals "book".toList },
      { key := .equals "title".toList, value := .equals "a,b".toList }]⟩ ∧
    ofQuery (s ++ ',' :: t) =
      .error (.malformed (.notNumber (.compare .lt) ['x']) (s ++ ',' :: t) (19 + 1 + 16)) := by
  intro s t
  have hs : ofQuery s = .ok ⟨[{ scope := .header, key := .equals "book".toList },
      { key := .equals "title".toList, value := .equals "a,b".toList }]⟩ := by
    decide +kernel
  have ht : ofQuery t = .error (.malformed (.notNumber (.compare .lt) ['x']) t 16) := by
    decide +kernel
  have hb : ∃ c ∈ t, isBlank c = false := ⟨'x', by decide +kernel, by decide⟩
  exact ⟨hs, (ofQuery_append_comma hs hb).right.left _ _ _ ht⟩

end MemoBase.MemoFilter
