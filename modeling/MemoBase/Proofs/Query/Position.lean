import MemoBase.Proofs.Query.Composition

namespace MemoBase.Query

open Text

variable {s : Text} {e : Stop}

section Parts

def Gap.none : Gap :=
  ⟨[], by simp⟩

-- A key and a number that can stand wherever one is missing.
def Condition.letter (scope : Scope) : Condition :=
  ⟨scope, ['a'], .none, .none, by decide⟩

def Operand.zero : Operand :=
  .bare ['0'] (by simp) (by simp; decide)

theorem Operand.exists_denotes_zero (op : Operator) : ∃ f, op.Denotes zero.value f := by
  cases op
  case equals    => exact ⟨_, .equals⟩
  case contains  => exact ⟨_, .contains⟩
  case compare c => exact ⟨_, .compare (x := .zero false) (by decide +kernel)⟩

end Parts

-- A missing key or operand can be put in, and a bad index can be left out.
theorem Condition.exists_beginning (h : condition s = .error e) :
    ∃ (c : Condition) (w : Text), c.index.IsShort ∧ w <+: c.text ∧ s = w ++ e.rest := by
  have hs := text_append_scope s
  rcases condition_eq_error_iff.mp h with hk | ⟨k, t, hk, h⟩
  case inl =>
    refine ⟨letter (Query.scope s).1, (Query.scope s).1.text, trivial, List.prefix_append .., ?_⟩
    rw [rest_of_key hk, hs]
  case inr =>
    obtain ⟨hk, ht⟩ := exists_of_key hk
    rcases h with hi | ⟨_, u, hi, he⟩
    case inl =>
      let w := (Query.scope s).1.text ++ k
      refine ⟨⟨(Query.scope s).1, k, .none, .none, hk⟩, w, trivial, ?_, ?_⟩
      · simp [w, text, Index.text]
      · rw [rest_of_index hi, List.append_assoc, ← ht, hs]
    case inr =>
      obtain ⟨index, short, _, hu⟩ := Index.exists_of_index hi
      obtain ⟨op, v, hop, he⟩ := rest_of_test he
      obtain ⟨before, hb⟩ := Gap.exists_trimLeft u
      obtain ⟨after, ha⟩ := Gap.exists_trimLeft v
      obtain ⟨f, hf⟩ := Operand.exists_denotes_zero op
      let test : Test := ⟨before, op, after, .zero, f, hf⟩
      let w := (Query.scope s).1.text ++
        (k ++ (index.text ++ (before.text ++ (op.text ++ after.text))))
      refine ⟨⟨(Query.scope s).1, k, index, test, hk⟩, w, short, ?_, ?_⟩
      · exact ⟨Operand.zero.text, by simp [w, test, text, Test.text]⟩
      · rw [← hs, ht, hu, hb, hop, ha, he]
        simp [w]

theorem exists_beginning_of_conditions (h : conditions s = .error e) :
    ∃ (c : Condition) (ls : List Link) (g : Gap) (w : Text), c.index.IsShort ∧
      (∀ l ∈ ls, l.condition.index.IsShort) ∧ w <+: c.text ++ tail ls g ∧ s = w ++ e.rest := by
  induction hl : s.length using Nat.strong_induction_on generalizing s
  case h l ih =>
    subst hl
    rcases conditions_eq_error_iff.mp h with hc | ⟨f, t, hc, h⟩
    case inl =>
      obtain ⟨c, w, short, hw, hs⟩ := Condition.exists_beginning hc
      exact ⟨c, [], .none, w, short, by simp, hw.trans (List.prefix_append ..), hs⟩
    case inr =>
      obtain ⟨c, g, short, _, hs⟩ := Condition.exists_of_condition hc
      obtain ⟨before, hb⟩ := Gap.exists_trimLeft (g.text ++ t)
      rw [g.trimLeft_append] at hb
      rcases h with ⟨u, ht, h⟩ | ⟨_, _, _, ht, rfl⟩
      case inl =>
        obtain ⟨after, ha⟩ := Gap.exists_trimLeft u
        rw [hs, hb, ht, ha] at ih ⊢
        obtain ⟨c', ls, g', w, short', hls, hw, hu⟩ := ih _ (by simp; omega) h rfl
        let w' := c.text ++ (before.text ++ ',' :: (after.text ++ w))
        refine ⟨c, ⟨before, after, c'⟩ :: ls, g', w', short,
          List.forall_mem_cons.mpr ⟨short', hls⟩, ?_, ?_⟩
        · obtain ⟨r, hr⟩ := hw
          exact ⟨r, by simp [w', tail_cons, ← hr]⟩
        · rw [hu]
          simp [w']
      case inr =>
        refine ⟨c, [], before, c.text ++ before.text, short, by simp, by simp [tail], ?_⟩
        rw [hs, hb, ht, List.append_assoc]

theorem exists_beginning_of_read (h : read s = .error e) :
    ∃ (d : Derivation) (w : Text), d.IsShort ∧ w <+: d.text ∧ s = w ++ e.rest := by
  obtain ⟨before, hs⟩ := Gap.exists_trimLeft s
  rw [read] at h
  split at h
  case isTrue hb =>
    cases h
    refine ⟨⟨before, .letter .any, [], .none⟩, s, ?_, ?_, by simp⟩
    · simp [Derivation.isShort_iff, Condition.letter, Index.IsShort]
    · rw [hs, hb, List.append_nil]
      exact List.prefix_append ..
  case isFalse =>
    obtain ⟨c, ls, g, w, hc, hl, hw, ht⟩ := exists_beginning_of_conditions h
    refine ⟨⟨before, c, ls, g⟩, before.text ++ w, Derivation.isShort_iff.mpr ⟨hc, hl⟩, ?_, ?_⟩
    · rw [Derivation.text_eq]
      exact List.prefix_append_right_inj _ |>.mpr hw
    · rw [List.append_assoc, ← ht, ← hs]

end MemoBase.Query

namespace MemoBase.MemoFilter

open Query

variable {query query' : Text} {fault : Fault} {p : Nat}

-- The query can be cut off at any fault and be put right from there.
theorem exists_completion (h : ofQuery query = .error (.malformed fault query' p)) :
    p ≤ query.length ∧ ∃ s f, ofQuery (query.take p ++ s) = .ok f := by
  rw [ofQuery] at h
  split at h
  case h_1 => cases h
  case h_2 e hr =>
    obtain ⟨d, w, short, ⟨s, hs⟩, hw⟩ := exists_beginning_of_read hr
    rcases e.error_eq with ⟨n, he⟩ | he <;> rw [he] at h <;> cases h
    have ht : query.take (query.length - e.rest.length) = w := by
      rw [hw, List.length_append, Nat.add_sub_cancel, List.take_left]
    refine ⟨Nat.sub_le .., s, d.filter, ?_⟩
    rw [ht, hs, ofQuery, read_text short]

-- The operand is no number, though it begins like one.
theorem exists_completion_operand :
    let query : Text := "@book, year[0 : 2] >= 1e".toList
    ofQuery query = .error (.malformed (.notNumber (.compare .ge) "1e".toList) query 22) ∧
      ∃ s f, ofQuery ("@book, year[0 : 2] >= ".toList ++ s) = .ok f := by
  intro query
  have h : ofQuery query = .error (.malformed (.notNumber (.compare .ge) "1e".toList) query 22) := by
    decide +kernel
  exact ⟨h, (exists_completion h).right⟩

end MemoBase.MemoFilter
