import MemoBase.Filter.Memo
import MemoBase.Proofs.Memo.Representable
import MemoBase.Proofs.Number.Shortest

namespace MemoBase

namespace Value

theorem toSingle_text {s : Text} {x : Single} (h : Single.read s = .ok x) :
    (text s).toSingle = .ok x := by
  simp [toSingle, h, Except.mapError]

theorem natAbs_int32_lt (n : Int32) : n.toInt.natAbs < 2 ^ 53 := by
  have := n.toInt_lt
  have := n.le_toInt
  omega

-- The text of a truth value is no number either.
theorem toSingle_reloaded (v : Value) : v.reloaded.toSingle = v.toSingle ∨
    (∃ e, v.reloaded.toSingle = .error e) ∧ ∃ e, v.toSingle = .error e := by
  cases v
  case text | block => exact .inl rfl
  case integer n => exact .inl (toSingle_text (Single.read_ofInt (natAbs_int32_lt n)))
  case number x  => exact .inl (toSingle_text (Single.read_text x))
  case bool b    =>
    refine .inr ⟨?_, _, rfl⟩
    cases b
    case false => exact ⟨.numeral (.notNumeral "false".toList), by decide +kernel⟩
    case true  => exact ⟨.numeral (.notNumeral "true".toList), by decide +kernel⟩

end Value

namespace ValueFilter

def IsContains : ValueFilter → Prop
  | contains _ => True
  | _          => False

theorem check_reloaded {f : ValueFilter} (hf : ¬f.IsContains) (v : Value) :
    f.check v.reloaded = f.check v := by
  cases f
  case any      => rfl
  case equals s => simp [check]
  case contains => exact absurd trivial hf
  case compare op x =>
    simp only [check]
    rcases v.toSingle_reloaded with h | ⟨⟨e, h⟩, e', h'⟩
    case inl => rw [h]
    case inr => rw [h, h']

end ValueFilter

namespace Memo

variable (m : Memo)

theorem zipIdx_reloaded (ns : List Node) (k : Nat) :
    ((ns.map Node.reloaded).zipIdx k).map (fun p => (p.2, p.1)) =
      ((ns.zipIdx k).map fun p => (p.2, p.1)).map fun p => (p.1, p.2.reloaded) := by
  simp [List.zipIdx_map]

theorem enumerate_reloaded (scope : Scope) :
    m.reloaded.enumerate scope = (m.enumerate scope).map fun p => (p.1, p.2.reloaded) := by
  cases scope
  case header => rfl
  case data   => exact zipIdx_reloaded m.data 1
  case any    => exact zipIdx_reloaded m.nodes 0

end Memo

namespace NodeFilter

variable {f : NodeFilter} {m : Memo}

theorem candidates_reloaded (f : NodeFilter) (m : Memo) :
    f.candidates m.reloaded = (f.candidates m).map fun p => (p.1, p.2.reloaded) := by
  simp only [candidates, Memo.enumerate_reloaded, List.filter_map]
  rfl

theorem hits_reloaded (hf : ¬f.value.IsContains) :
    f.hits m.reloaded = (f.hits m).map fun p => (p.1, p.2.reloaded) := by
  simp [hits, candidates_reloaded, List.zipIdx_map, List.filter_map, Function.comp_def,
    ValueFilter.check_reloaded hf]

theorem check_reloaded (hf : ¬f.value.IsContains) : f.check m.reloaded = f.check m := by
  simp [check, hits_reloaded hf]

theorem positions_reloaded (hf : ¬f.value.IsContains) : f.positions m.reloaded = f.positions m := by
  simp [positions, hits_reloaded hf]

end NodeFilter

namespace MemoFilter

-- No condition of the filter looks into texts.
def Unsearching (f : MemoFilter) : Prop :=
  ∀ c ∈ f.conditions, ¬c.value.IsContains

variable {f : MemoFilter} {m : Memo}

theorem check_reloaded (hf : f.Unsearching) : f.check m.reloaded = f.check m := by
  have h : ∀ c ∈ f.conditions, c.check m.reloaded = c.check m :=
    fun c hc => NodeFilter.check_reloaded (hf c hc)
  rw [check, check, Bool.eq_iff_iff, List.all_eq_true, List.all_eq_true]
  exact forall₂_congr fun c hc => by rw [h c hc]

theorem positions_reloaded (hf : f.Unsearching) : f.positions m.reloaded = f.positions m := by
  have h : f.conditions.map (·.positions m.reloaded) = f.conditions.map (·.positions m) :=
    List.map_congr_left fun c hc => NodeFilter.positions_reloaded (hf c hc)
  simp [positions, h]

theorem filter_reloaded (hf : f.Unsearching) (ms : List Memo) :
    f.filter (ms.map Memo.reloaded) = (f.filter ms).map Memo.reloaded := by
  rw [filter, filter, List.filter_map]
  congr 1
  exact List.filter_congr fun m _ => check_reloaded hf

end MemoFilter
end MemoBase
