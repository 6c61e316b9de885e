import MemoBase.Proofs.Query.Reading

namespace MemoBase.Query

open Text

-- An index with such a number. Of two such numbers the first one is reported.
inductive LongIndex
  | single (b : Bound) (long : ¬b.IsShort)
  | first (b b' : Bound) (long : ¬b.IsShort)
  | last (b b' : Bound) (short : b.IsShort) (long : ¬b'.IsShort)

namespace LongIndex

def text : LongIndex → Text
  | single b _                   => '[' :: b.text ++ [']']
  | first b b' _ | last b b' _ _ => '[' :: b.text ++ ':' :: b'.text ++ [']']

def digits : LongIndex → Nat
  | single b _ | first b _ _ => b.digits.length
  | last _ b' _ _            => b'.digits.length

end LongIndex

-- Conditions that can be read, and behind them a condition whose index gives `n` digits to work out.
inductive Overruns (n : Nat) : Text → Prop
  | here {scope : Scope} {key rest : Text} {i : LongIndex} :
    Node.isKey key → i.digits = n → Overruns n (scope.text ++ (key ++ (i.text ++ rest)))
  | next {c : Condition} {before after : Gap} {s : Text} :
    c.index.IsShort → Overruns n s →
    Overruns n (c.text ++ (before.text ++ ',' :: (after.text ++ s)))

variable {n : Nat} {s r : Text}

section Indices

theorem bounds_eq_long_iff {b : Text × Option Text} :
    bounds b = .error (.longNumeral n) ↔
      ¬b.1.length ≤ Integer.maxDigits ∧ n = b.1.length ∨
      b.1.length ≤ Integer.maxDigits ∧
        ∃ last ∈ b.2, ¬last.length ≤ Integer.maxDigits ∧ n = last.length := by
  obtain ⟨first, last⟩ := b
  by_cases hf : Integer.maxDigits < first.length
  case pos =>
    have := Nat.not_le.mpr hf
    cases last <;> simp [bounds, number, hf, this, bind, Except.bind, eq_comm (a := n)]
  case neg =>
    have := Nat.not_lt.mp hf
    cases last
    case none => simp [bounds, number, hf, this, bind, Except.bind, pure, Except.pure]
    case some last =>
      by_cases hl : Integer.maxDigits < last.length
      case pos => simp [bounds, number, hf, hl, this, bind, Except.bind, eq_comm (a := n)]
      case neg =>
        simp only [bounds, number, hf, hl, if_false, bind, Except.bind]
        split <;> simp [hf, hl, pure, Except.pure, throw, throwThe, MonadExceptOf.throw]

namespace LongIndex

theorem index_append (i : LongIndex) :
    index (i.text ++ r) = .error ⟨.longNumeral i.digits, i.text ++ r⟩ := by
  cases i
  case single b long =>
    have hb := Bound.numeral?_append (b := b) (r := r) Bound.closes_bracket
    have he := bounds_eq_long_iff (b := (b.digits, none)) |>.mpr (.inl ⟨long, rfl⟩)
    simp [text, digits, index, bounds?, hb, he]
  case first b b' long =>
    have hb := Bound.numeral?_append (b := b) (r := b'.text ++ ']' :: r) Bound.closes_colon
    have hb' := Bound.numeral?_append (b := b') (r := r) Bound.closes_bracket
    have he := bounds_eq_long_iff (b := (b.digits, some b'.digits)) |>.mpr (.inl ⟨long, rfl⟩)
    simp [text, digits, index, bounds?, hb, hb', he]
  case last b b' short long =>
    have hb := Bound.numeral?_append (b := b) (r := b'.text ++ ']' :: r) Bound.closes_colon
    have hb' := Bound.numeral?_append (b := b') (r := r) Bound.closes_bracket
    have he := bounds_eq_long_iff (b := (b.digits, some b'.digits)) |>.mpr
      (.inr ⟨short, _, rfl, long, rfl⟩)
    simp [text, digits, index, bounds?, hb, hb', he]

theorem exists_of_index (h : index s = .error ⟨.longNumeral n, r⟩) :
    ∃ (i : LongIndex) (rest : Text), i.digits = n ∧ s = i.text ++ rest := by
  simp only [index] at h
  split at h
  case h_2 => contradiction
  case h_1 t =>
    split at h
    case h_1 => cases h
    case h_2 ds rest hb =>
      split at h
      case h_1 => contradiction
      case h_2 he =>
        cases h
        rcases exists_of_bounds? hb with ⟨b, rfl, ht⟩ | ⟨b, b', rfl, ht⟩
        case inl =>
          rcases bounds_eq_long_iff.mp he with ⟨long, hn⟩ | ⟨_, _, hl, _⟩
          case inl => exact ⟨single b long, rest, hn.symm, by simp [text, ht]⟩
          case inr => contradiction
        case inr =>
          rcases bounds_eq_long_iff.mp he with ⟨long, hn⟩ | ⟨short, _, hl, long, hn⟩
          case inl => exact ⟨first b b' long, rest, hn.symm, by simp [text, ht]⟩
          case inr =>
            cases hl
            exact ⟨last b b' short long, rest, hn.symm, by simp [text, ht]⟩

end LongIndex
end Indices

section Conditions

variable {scope : Scope} {key rest : Text} {i : LongIndex} {e : Stop}

theorem condition_overrun (hk : Node.isKey key) :
    condition (scope.text ++ (key ++ (i.text ++ rest))) =
      .error ⟨.longNumeral i.digits, i.text ++ rest⟩ := by
  have hs : Stops Node.isKeyChar (i.text ++ rest) := by
    cases i <;> simp [LongIndex.text] <;> decide
  simp only [condition, Condition.scope_append scope hk, Query.key, Node.readKey?_append hk hs,
    i.index_append]

theorem operand_ne_long {t : Text} : operand s ≠ .error ⟨.longNumeral n, t⟩ := by
  simp only [operand]
  split <;> split <;> simp

theorem test_ne_long {t : Text} : test s ≠ .error ⟨.longNumeral n, t⟩ := by
  intro h
  simp only [test] at h
  split at h
  case h_1 => cases h
  case h_2 op u _ =>
    split at h
    case h_1 he =>
      cases h
      exact operand_ne_long he
    case h_2 w _ _ =>
      split at h
      case h_1 => cases h
      case h_2 he =>
        cases op <;> simp only [valueFilter] at he
        case compare =>
          split at he <;> cases he
          cases h
        all_goals cases he

-- The parts are read one after the other, and the first one that cannot be read decides.
theorem condition_eq_error_iff : condition s = .error e ↔
    Query.key (Query.scope s).2 = .error e ∨ ∃ k t, Query.key (Query.scope s).2 = .ok (k, t) ∧
      (index t = .error e ∨ ∃ f u, index t = .ok (f, u) ∧ test u.trimLeft = .error e) := by
  simp only [condition]
  split
  case h_1 hk => simp [hk]
  case h_2 k t hk =>
    split
    case h_1 hi => simp [hk, hi]
    case h_2 f u hi =>
      split
      case h_1 ht => simp [hk, hi, ht]
      case h_2 ht => simp [hk, hi, ht]

theorem exists_of_condition_error (h : condition s = .error ⟨.longNumeral n, r⟩) :
    ∃ (scope : Scope) (key : Text) (i : LongIndex) (rest : Text),
      Node.isKey key ∧ i.digits = n ∧ s = scope.text ++ (key ++ (i.text ++ rest)) := by
  rcases condition_eq_error_iff.mp h with hk | ⟨k, t, hk, hi | ⟨_, _, _, ht⟩⟩
  case inl =>
    simp only [Query.key] at hk
    split at hk <;> cases hk
  case inr.inl =>
    obtain ⟨hk, ht⟩ := Condition.exists_of_key hk
    obtain ⟨i, rest, hn, hu⟩ := LongIndex.exists_of_index hi
    exact ⟨_, k, i, rest, hk, hn, by rw [← hu, ← ht, Condition.text_append_scope s]⟩
  case inr.inr => exact absurd ht test_ne_long

-- The first condition that cannot be read decides, or else what follows a condition.
theorem conditions_eq_error_iff :
    conditions s = .error e ↔ condition s = .error e ∨
      ∃ f t, condition s = .ok (f, t) ∧
        ((∃ u, trimLeft t = ',' :: u ∧ conditions (trimLeft u) = .error e) ∨
          ∃ c u, c ≠ ',' ∧ trimLeft t = c :: u ∧ e = ⟨.unexpected c, c :: u⟩) := by
  rw [conditions]
  split
  case h_1 h => simp [h]
  case h_2 f t h =>
    split
    case h_1 h' => simp [h, h']
    case h_2 u h' =>
      cases hu : conditions (trimLeft u) <;> simp [h, h', hu, Except.map]
    case h_3 c u hc h' =>
      have : c ≠ ',' := fun he => hc he
      simp [h, h', this, eq_comm (a := e)]

theorem Overruns.stops (h : Overruns n s) : Stops isBlank s := by
  cases h
  case here scope key rest i hk _ =>
    have := Condition.text_stops ⟨scope, key, .none, .none, hk⟩ (r := i.text ++ rest)
    simpa [Condition.text, Index.text] using this
  case next c _ _ _ _ _ => exact c.text_stops

theorem Overruns.ne_nil (h : Overruns n s) : s ≠ [] := by
  cases h
  case here hk _ => simp [Node.isKey_ne_nil hk]
  case next      => simp

theorem conditions_of_overruns (h : Overruns n s) :
    ∃ r, conditions s = .error ⟨.longNumeral n, r⟩ := by
  induction h
  case here hk hn => exact ⟨_, conditions_eq_error_iff.mpr (.inl (hn ▸ condition_overrun hk))⟩
  case next c before after s hi hs ih =>
    have hb : (before.text ++ ',' :: (after.text ++ s)).trimLeft = ',' :: (after.text ++ s) :=
      before.trimLeft_append_of_stops comma_stops
    obtain ⟨t, hc, ht⟩ := c.condition_append hi (r := before.text ++ ',' :: (after.text ++ s))
      (by simp [Ends, hb])
    obtain ⟨r, hr⟩ := ih
    rw [← after.trimLeft_append_of_stops hs.stops] at hr
    exact ⟨r, conditions_eq_error_iff.mpr (.inr ⟨_, t, hc, .inl ⟨_, ht.trans hb, hr⟩⟩)⟩

-- By induction on the length of the text, since there is no list of filters to follow.
theorem overruns_of_conditions (h : conditions s = .error ⟨.longNumeral n, r⟩) : Overruns n s := by
  induction hl : s.length using Nat.strong_induction_on generalizing s
  case h l ih =>
    subst hl
    rcases conditions_eq_error_iff.mp h with hc | ⟨f, t, hc, ⟨u, ht, h⟩ | ⟨_, _, _, _, he⟩⟩
    case inl =>
      have ⟨scope, key, i, rest, hk, hn, hs⟩ := exists_of_condition_error hc
      exact hs ▸ .here hk hn
    case inr.inl =>
      have ⟨c, g, hi, _, hs⟩ := Condition.exists_of_condition hc
      have ⟨before, hb⟩ := Gap.exists_trimLeft (g.text ++ t)
      have ⟨after, ha⟩ := Gap.exists_trimLeft u
      rw [g.trimLeft_append, ht] at hb
      rw [hs, hb, ha] at ih ⊢
      refine .next hi (ih _ ?_ h rfl)
      simp
      omega
    case inr.inr => cases he

end Conditions

theorem read_eq_long_iff :
    (∃ r, read s = .error ⟨.longNumeral n, r⟩) ↔ Overruns n s.trimLeft := by
  rw [read]
  split
  case isTrue hs => exact iff_of_false (by simp) fun h => h.ne_nil hs
  case isFalse =>
    constructor
    case mp =>
      rintro ⟨_, h⟩
      exact overruns_of_conditions h
    case mpr => exact conditions_of_overruns

end MemoBase.Query

namespace MemoBase.MemoFilter

open Query

variable {n : Nat}

theorem ofQuery_eq_long_iff (query : Text) :
    ofQuery query = .error (.longNumeral n) ↔ Overruns n query.trimLeft := by
  rw [← read_eq_long_iff, ofQuery]
  cases read query
  case ok fs => simp
  case error e =>
    obtain ⟨fault, rest⟩ := e
    cases fault <;> simp [Stop.error]

theorem ofQuery_cases (query : Text) :
    (∃ f, ofQuery query = .ok f ∧ f.conditions ≠ []) ∨
    (∃ fault position, ofQuery query = .error (.malformed fault query position)) ∨
    ∃ n, ofQuery query = .error (.longNumeral n) := by
  rw [ofQuery]
  cases h : read query
  case ok fs =>
    obtain ⟨d, _, _, hd⟩ := exists_of_read h
    cases hd
    exact .inl ⟨d.filter, rfl, by simp [Derivation.filter, Derivation.conditions]⟩
  case error e =>
    obtain ⟨fault, rest⟩ := e
    cases fault <;> simp [Stop.error]

end MemoBase.MemoFilter
