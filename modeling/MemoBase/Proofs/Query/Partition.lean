import MemoBase.Proofs.Query.Comparison

namespace MemoBase

open Query

variable {key s : Text} {c : Comparison} {m : Memo} {p : Nat} {x y : Single}

namespace Comparison

def opposite : Comparison → Comparison
  | lt => ge
  | le => gt
  | gt => le
  | ge => lt

variable {z w : Double}

theorem holds_opposite (hz : z.isNan = false) (hw : w.isNan = false) :
    c.opposite.holds z w = !c.holds z w := by
  cases c <;> simp [opposite, holds, Binary.lt_eq_not_le, hz, hw]

theorem isNan_of_holds (h : c.holds z w) : z.isNan = false := by
  cases c <;> simp only [holds, Binary.le_iff, Binary.lt_iff] at h <;> simp [h]

theorem holds_le_and_ge_iff :
    le.holds (x.convert .double) (y.convert .double) ∧
      ge.holds (x.convert .double) (y.convert .double) ↔ x.same y := by
  simp only [holds, Binary.convert_le_iff, Binary.same_iff_le]

end Comparison

-- The node at a position has the key, and its value is taken to the number.
def Memo.HasNumber (m : Memo) (key : Text) (p : Nat) (x : Single) : Prop :=
  ∃ n, m.nodes[p]? = some n ∧ n.key = key ∧ n.value.toSingle = .ok x

theorem Memo.HasNumber.unique (hx : m.HasNumber key p x) (hy : m.HasNumber key p y) : x = y := by
  obtain ⟨n, hn, _, hx⟩ := hx
  obtain ⟨n', hn', _, hy⟩ := hy
  cases hn.symm.trans hn'
  exact Except.ok.inj (hx.symm.trans hy)

namespace MemoFilter

def comparing (key : Text) (c : Comparison) (y : Single) : MemoFilter :=
  ⟨[{ key := .equals key, value := .compare c (y.convert .double) }]⟩

theorem mem_positions_comparing_iff : p ∈ (comparing key c y).positions m ↔
    ∃ x, m.HasNumber key p x ∧ c.holds (x.convert .double) (y.convert .double) := by
  rw [comparing, mem_positions_iff]
  constructor
  case mp =>
    rintro ⟨n, hn, hk, hc⟩
    cases hv : n.value.toSingle
    case error => simp [ValueFilter.check, hv] at hc
    case ok x  => exact ⟨x, ⟨n, hn, hk, hv⟩, by rwa [ValueFilter.check_compare hv] at hc⟩
  case mpr =>
    rintro ⟨x, ⟨n, hn, hk, hv⟩, hc⟩
    exact ⟨n, hn, hk, by rwa [ValueFilter.check_compare hv]⟩

theorem disjoint_opposite (hy : y.isNan = false) :
    ((comparing key c y).positions m).Disjoint ((comparing key c.opposite y).positions m) := by
  intro p h h'
  obtain ⟨x, hx, hc⟩ := mem_positions_comparing_iff.mp h
  obtain ⟨x', hx', hc'⟩ := mem_positions_comparing_iff.mp h'
  cases hx.unique hx'
  rw [Comparison.holds_opposite (Comparison.isNan_of_holds hc) (y.isNan_convert.trans hy), hc] at hc'
  contradiction

theorem mem_positions_or_opposite_iff (hy : y.isNan = false) :
    p ∈ (comparing key c y).positions m ∨ p ∈ (comparing key c.opposite y).positions m ↔
      ∃ x, m.HasNumber key p x ∧ x.isNan = false := by
  simp only [mem_positions_comparing_iff]
  constructor
  case mp =>
    rintro (⟨x, hx, hc⟩ | ⟨x, hx, hc⟩)
    all_goals exact ⟨x, hx, x.isNan_convert.symm.trans (Comparison.isNan_of_holds hc)⟩
  case mpr =>
    rintro ⟨x, hx, hn⟩
    have ho := Comparison.holds_opposite (c := c) (x.isNan_convert.trans hn) (y.isNan_convert.trans hy)
    cases hc : c.holds (x.convert .double) (y.convert .double)
    case true  => exact .inl ⟨x, hx, hc⟩
    case false => exact .inr ⟨x, hx, by rw [ho, hc, Bool.not_false]⟩

theorem mem_positions_le_and_ge_iff :
    p ∈ (comparing key .le y).positions m ∧ p ∈ (comparing key .ge y).positions m ↔
      ∃ x, m.HasNumber key p x ∧ x.same y := by
  simp only [mem_positions_comparing_iff, ← Comparison.holds_le_and_ge_iff]
  constructor
  case mp =>
    rintro ⟨⟨x, hx, hle⟩, x', hx', hge⟩
    cases hx.unique hx'
    exact ⟨x, hx, hle, hge⟩
  case mpr => exact fun ⟨x, hx, hle, hge⟩ => ⟨⟨x, hx, hle⟩, x, hx, hge⟩

-- The four comparisons with a number are accepted, and sort the numbers of a key by it.
theorem comparisons_split (hk : Node.isKey key) (hs : Single.read s = .ok y) (hy : y.isNan = false) :
    ∃ f : Comparison → MemoFilter,
      (∀ c before after, ofQuery (Query.comparing key before (.compare c) after s) = .ok (f c)) ∧
      ∀ m : Memo,
        (∀ c, ((f c).positions m).Disjoint ((f c.opposite).positions m)) ∧
        (∀ c p, p ∈ (f c).positions m ∨ p ∈ (f c.opposite).positions m ↔
          ∃ x, m.HasNumber key p x ∧ x.isNan = false) ∧
        ∀ p, p ∈ (f .le).positions m ∧ p ∈ (f .ge).positions m ↔
          ∃ x, m.HasNumber key p x ∧ x.same y := by
  have ⟨a, ha⟩ := Single.exists_writes hs hy
  refine ⟨fun c => comparing key c y, fun c _ _ => ofQuery_comparing hk (.compare hs) ha, fun m => ?_⟩
  exact ⟨fun c => disjoint_opposite hy, fun c p => mem_positions_or_opposite_iff hy,
    fun p => mem_positions_le_and_ge_iff⟩

-- A zero of the other sign is on both sides of a zero, and an infinite number on one of them.
theorem comparisons_split_zeros :
    let node (v : Value) : Node := ⟨['k'], v, []⟩
    let m : Memo := ⟨⟨['h'], .text ['0'], []⟩,
      [node (.number (.zero false)), node (.text "nan".toList), node (.text "-inf".toList)]⟩
    ∃ f : Comparison → MemoFilter,
      ofQuery "k <-0".toList = .ok (f .lt) ∧ ofQuery "k>= -0".toList = .ok (f .ge) ∧
      (1 ∈ (f .le).positions m ∧ 1 ∈ (f .ge).positions m) ∧
      (3 ∈ (f .lt).positions m ∨ 3 ∈ (f .ge).positions m) := by
  intro node m
  let none : Gap := ⟨[], by simp⟩
  let space : Gap := ⟨[' '], by simp; decide⟩
  have hk : Node.isKey ['k'] := by decide
  have hs : Single.read "-0".toList = .ok (.zero true) := by decide +kernel
  have ⟨f, hf, h⟩ := comparisons_split hk hs rfl
  have ⟨_, hu, hb⟩ := h m
  refine ⟨f, hf .lt space none, hf .ge none space, (hb 1).mpr ?_, (hu .lt 3).mpr ?_⟩
  · exact ⟨.zero false, ⟨_, rfl, rfl, rfl⟩, rfl⟩
  · exact ⟨.infinite true, ⟨_, rfl, rfl, by decide +kernel⟩, rfl⟩

end MemoFilter
end MemoBase
