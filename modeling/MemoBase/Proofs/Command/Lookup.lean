import MemoBase.Command.Lookup
import MemoBase.Proofs.Query.Overrun

namespace MemoBase

open Query

-- The fault of a query, as opposed to a number that cannot be worked out.
def QueryError.IsMalformed (query : Text) : QueryError → Prop
  | malformed _ s _ => s = query
  | longNumeral _   => False

-- The failures of looking for a filter.
def CommandError.IsLookup (name : Text) : CommandError → Prop
  | noFilter s | noQuery s => s = name
  | badQuery s e           => s = name ∧ ∃ query, e.IsMalformed query
  | query _ | noTemplate _ => False

namespace MemoFilter

-- A filter that looks for something, or an error of a kind that callers are prepared for.
def IsExpected {ε : Type} (kind : ε → Prop) : Except ε MemoFilter → Prop
  | .ok f    => f.conditions ≠ []
  | .error e => kind e

-- The query of the filter with the given name.
def stored? (ms : List Memo) (name : Text) : Option Text := do
  let m ← Memo.find? ms filterCollection name
  let n ← m.data.find? (·.key = queryKey)
  return n.value.plain

section Failures

variable {ms : List Memo} {name query : Text} {n : Nat}

theorem isExpected_ofQuery_iff :
    IsExpected (·.IsMalformed query) (ofQuery query) ↔ ¬∃ n, Overruns n query.trimLeft := by
  simp only [← ofQuery_eq_long_iff]
  rcases ofQuery_cases query with ⟨f, h, hf⟩ | ⟨fault, position, h⟩ | ⟨n, h⟩
  case inl     => simp [h, IsExpected, hf]
  case inr.inl => simp [h, IsExpected, QueryError.IsMalformed]
  case inr.inr => simp [h, IsExpected, QueryError.IsMalformed]

-- Looking for a filter fails by itself, or else it comes down to the query that was found.
theorem named_cases (ms : List Memo) (name : Text) :
    stored? ms name = none ∧ (∃ e, named ms name = .error e ∧ e.IsLookup name ∧
      ∀ e', e ≠ .query e') ∨
    ∃ query, stored? ms name = some query ∧
      ((∃ f, ofQuery query = .ok f ∧ named ms name = .ok f ∧ f.conditions ≠ []) ∨
        (∃ fault position, ofQuery query = .error (.malformed fault query position) ∧
          named ms name = .error (.badQuery name (.malformed fault query position))) ∨
        ∃ n, ofQuery query = .error (.longNumeral n) ∧
          named ms name = .error (.query (.longNumeral n))) := by
  cases hm : Memo.find? ms filterCollection name
  case none => simp [named, stored?, hm, CommandError.IsLookup]
  case some m =>
    cases hn : m.data.find? (·.key = queryKey)
    case none => simp [named, stored?, hm, hn, CommandError.IsLookup]
    case some n =>
      refine .inr ⟨n.value.plain, by simp [stored?, hm, hn], ?_⟩
      simp only [named, hm, hn]
      rcases ofQuery_cases n.value.plain with ⟨f, h, hf⟩ | ⟨fault, position, h⟩ | ⟨ds, h⟩
      case inl     => exact .inl ⟨f, h, by rw [h], hf⟩
      case inr.inl => exact .inr <| .inl ⟨fault, position, h, by rw [h]⟩
      case inr.inr => exact .inr <| .inr ⟨ds, h, by rw [h]⟩

theorem named_eq_long_iff (ms : List Memo) (name : Text) :
    named ms name = .error (.query (.longNumeral n)) ↔
      ∃ query ∈ stored? ms name, Overruns n query.trimLeft := by
  simp only [← ofQuery_eq_long_iff]
  rcases named_cases ms name with ⟨hs, e, h, _, he⟩ | ⟨query, hs, h⟩
  case inl => simp [hs, h, he]
  case inr =>
    rcases h with ⟨f, hq, h, _⟩ | ⟨fault, position, hq, h⟩ | ⟨ds, hq, h⟩ <;> simp [hs, hq, h]

theorem isExpected_named_iff (ms : List Memo) (name : Text) :
    IsExpected (·.IsLookup name) (named ms name) ↔
      ¬∃ query ∈ stored? ms name, ∃ n, Overruns n query.trimLeft := by
  simp only [← ofQuery_eq_long_iff]
  rcases named_cases ms name with ⟨hs, e, h, hl, _⟩ | ⟨query, hs, h⟩
  case inl => simp [hs, h, IsExpected, hl]
  case inr =>
    rcases h with ⟨f, hq, h, hf⟩ | ⟨fault, position, hq, h⟩ | ⟨ds, hq, h⟩
    case inl     => simp [hs, hq, h, IsExpected, hf]
    case inr.inl => simp [hs, hq, h, IsExpected, CommandError.IsLookup, QueryError.IsMalformed]
    case inr.inr => simp [hs, hq, h, IsExpected, CommandError.IsLookup]

-- The only failures of another kind are those of indices with too long a number.
theorem isExpected_iff_not_overruns (query : Text) (ms : List Memo) (name : Text) :
    (IsExpected (·.IsMalformed query) (ofQuery query) ↔ ¬∃ n, Overruns n query.trimLeft) ∧
    (∀ n, ofQuery query = .error (.longNumeral n) ↔ Overruns n query.trimLeft) ∧
    (IsExpected (·.IsLookup name) (named ms name) ↔
      ¬∃ query ∈ stored? ms name, ∃ n, Overruns n query.trimLeft) ∧
    ∀ n, named ms name = .error (.query (.longNumeral n)) ↔
      ∃ query ∈ stored? ms name, Overruns n query.trimLeft :=
  ⟨isExpected_ofQuery_iff, fun _ => ofQuery_eq_long_iff query, isExpected_named_iff ms name,
    fun _ => named_eq_long_iff ms name⟩

theorem overruns_zeros (hn : Integer.maxDigits < n) :
    Overruns n ("a[".toList ++ (List.replicate n '0' ++ [']'])) := by
  have hz : List.replicate n '0' ≠ [] := List.ne_nil_of_length_pos (by simp; omega)
  let gap : Gap := ⟨[], nofun⟩
  let zeros : Bound := ⟨gap, List.replicate n '0', gap, hz,
    fun c hc => List.eq_of_mem_replicate hc ▸ by decide⟩
  have long : ¬zeros.IsShort := by simpa [zeros, Bound.IsShort] using hn
  have hd : (LongIndex.single zeros long).digits = n := List.length_replicate
  have ho : Overruns n (Scope.any.text ++ (['a'] ++ ((LongIndex.single zeros long).text ++ []))) :=
    .here rfl hd
  simpa [Scope.text, LongIndex.text, Bound.text, zeros, gap] using ho

theorem not_isExpected_ofQuery_zeros :
    let query : Text := "a[".toList ++ (List.replicate 4301 '0' ++ [']'])
    ¬IsExpected (·.IsMalformed query) (ofQuery query) := by
  intro query h
  have ho : Overruns 4301 query := overruns_zeros (by decide)
  have ht : query.trimLeft = query := Text.dropWhile_eq_self ho.stops
  exact isExpected_ofQuery_iff.mp h ⟨4301, ht ▸ ho⟩

end Failures
end MemoFilter
end MemoBase
