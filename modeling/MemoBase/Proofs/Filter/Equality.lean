import MemoBase.Memo.Identity
import MemoBase.Proofs.Filter.Conjunction
import MemoBase.Proofs.Number.Order

namespace MemoBase

section Numbers

theorem Binary.num_eq_zero {F : Format} {neg : Bool} {code : Fin (F.top + 1)} (h : code.val = 0) :
    num neg code = zero neg := by
  rw [zero, Fin.ext (b := ⟨0, Nat.succ_pos _⟩) h]

-- Numbers of different signs have the same rank only if both are zero.
theorem Binary.eq_or_zero_of_same {F : Format} {x y : Binary F} (h : x.same y) :
    x = y ∨ ∃ neg, x = zero neg ∧ y = zero !neg := by
  have ⟨hx, hy, hr⟩ := same_iff.mp h
  cases x <;> cases y
  case num.num neg code neg' code' =>
    cases neg <;> cases neg' <;> simp only [rank] at hr
    case false.false | true.true => exact .inl (by rw [Fin.ext (by omega : code.val = code'.val)])
    case false.true | true.false =>
      exact .inr ⟨_, num_eq_zero (by omega), num_eq_zero (by omega)⟩
  all_goals contradiction

theorem Single.same_convert {x y : Single} (h : x.same y) :
    (x.convert .double).same (y.convert .double) := by
  rw [Binary.same_iff_le] at h ⊢
  exact ⟨Binary.convert_le_iff.mpr h.left, Binary.convert_le_iff.mpr h.right⟩

theorem Comparison.holds_congr {x y z : Double} (c : Comparison) (h : x.same y) :
    c.holds x z = c.holds y z := by
  have ⟨hx, hy, hr⟩ := Binary.same_iff.mp h
  cases c <;> simp [holds, Binary.lt, Binary.le, hx, hy, hr]

end Numbers

namespace Value

variable {v w : Value} {neg : Bool}

-- Zeros of different signs.
inductive Opposite : Value → Value → Prop
  | zeros (neg : Bool) : Opposite (number (.zero neg)) (number (.zero !neg))

-- Values that are equal, or one and the same thing. The latter makes a difference for a NaN.
def Matches (v w : Value) : Prop :=
  v = w ∨ v.same w

theorem Matches.eq_or_opposite (h : v.Matches w) : v = w ∨ v.Opposite w := by
  rcases h with h | h
  case inl => exact .inl h
  case inr =>
    cases v <;> cases w
    case number.number x y =>
      obtain rfl | ⟨neg, rfl, rfl⟩ := Binary.eq_or_zero_of_same h
      · exact .inl rfl
      · exact .inr (.zeros neg)
    all_goals exact .inl (beq_iff_eq.mp h)

theorem display_zero : (number (.zero neg)).display = if neg then "-0".toList else "0".toList := by
  cases neg <;> decide +kernel

end Value

namespace ValueFilter

variable {f : ValueFilter} {v w : Value}

-- Equality with the display text of a zero.
def TestsZero (f : ValueFilter) : Prop :=
  f = .equals "0".toList ∨ f = .equals "-0".toList

theorem check_eq_iff_of_opposite (h : v.Opposite w) : f.check v = f.check w ↔ ¬f.TestsZero := by
  obtain ⟨neg⟩ := h
  cases f
  case any | contains => simp [check, TestsZero]
  case equals s =>
    have hz : "0".toList ≠ "-0".toList := by decide
    simp only [check, TestsZero, Value.display_zero, equals.injEq]
    cases neg <;> simp only [Bool.not_false, Bool.not_true, if_true, Bool.false_eq_true, if_false]
    all_goals grind
  case compare c x =>
    have hs : (Binary.zero neg : Single).same (.zero !neg) := by cases neg <;> decide
    simpa [check, TestsZero, Value.toSingle] using c.holds_congr (Single.same_convert hs)

theorem check_congr (h : v.Matches w) (hf : f.TestsZero → ¬v.Opposite w) :
    f.check v = f.check w := by
  rcases h.eq_or_opposite with rfl | ho
  case inl => rfl
  case inr => exact (check_eq_iff_of_opposite ho).mpr fun ht => hf ht ho

end ValueFilter

variable {m m' : Memo} {p : Nat}

namespace NodeFilter

variable {f : NodeFilter}

-- What a condition takes notice of in a node.
def view (f : NodeFilter) (n : Node) : Text × Bool :=
  (n.key, f.value.check n.value)

theorem admits_iff_view :
    f.Admits m p ↔ f.scope.Covers p ∧ ∃ v ∈ m.nodes[p]?.map f.view, f.key.check v.1 := by
  simp [Admits, view]

theorem mem_positions_iff_view : p ∈ f.positions m ↔
    f.scope.Covers p ∧ f.index.check (Nat.count (f.Admits m) p) ∧
      ∃ v ∈ m.nodes[p]?.map f.view, f.key.check v.1 ∧ v.2 := by
  simp only [mem_positions_iff, Option.mem_def, Option.map_eq_some_iff]
  constructor
  case mp  => exact fun ⟨n, h⟩ => ⟨h.scope, h.index, _, ⟨n, h.node, rfl⟩, h.key, h.value⟩
  case mpr => exact fun ⟨hs, hi, _, ⟨n, hn, rfl⟩, hk, hv⟩ => ⟨n, hn, hs, hk, hi, hv⟩

theorem positions_congr (h : m.nodes.map f.view = m'.nodes.map f.view) :
    f.positions m = f.positions m' := by
  have hv (q : Nat) : m.nodes[q]?.map f.view = m'.nodes[q]?.map f.view := by
    rw [← List.getElem?_map, h, List.getElem?_map]
  have ha (q : Nat) : f.Admits m q ↔ f.Admits m' q := by
    rw [admits_iff_view, admits_iff_view, hv]
  refine (f.sortedLT_positions m).eq_of_mem_iff (f.sortedLT_positions m') fun q => ?_
  rw [mem_positions_iff_view, mem_positions_iff_view, hv, count_congr fun i _ => ha i]

theorem check_eq_not_isEmpty (f : NodeFilter) (m : Memo) :
    f.check m = !(f.positions m).isEmpty := by
  simp [check, positions]

end NodeFilter

namespace MemoFilter

variable {f : MemoFilter}

-- A filter that does not tell two memos apart.
structure Agrees (f : MemoFilter) (m m' : Memo) : Prop where
  check : f.check m = f.check m'
  positions : f.positions m = f.positions m'

theorem agrees_of_conditions (h : ∀ c ∈ f.conditions, c.positions m = c.positions m') :
    f.Agrees m m' where
  check := by
    rw [MemoFilter.check, MemoFilter.check, Bool.eq_iff_iff, List.all_eq_true, List.all_eq_true]
    refine forall₂_congr fun c hc => ?_
    rw [c.check_eq_not_isEmpty, h c hc, c.check_eq_not_isEmpty]
  positions := by
    refine (f.sortedLT_positions m).eq_of_mem_iff (f.sortedLT_positions m') fun p => ?_
    rw [mem_positions_iff_of_conditions, mem_positions_iff_of_conditions]
    exact exists_congr fun c => and_congr_right fun hc => by rw [h c hc]

theorem mem_positions_value {n : Node} (value : ValueFilter) (hn : m.nodes[p]? = some n) :
    p ∈ positions ⟨[{ value := value }]⟩ m ↔ value.check n.value := by
  simp [mem_positions_uncounted, hn, KeyFilter.check]

end MemoFilter

namespace Memo

-- Memos that are equal node by node, whatever their attributes are.
def Matches (m m' : Memo) : Prop :=
  List.Forall₂ (fun n n' => n.key = n'.key ∧ n.value.Matches n'.value) m.nodes m'.nodes

-- Memos without a zero where the other one has the zero of the other sign.
def ZerosAgree (m m' : Memo) : Prop :=
  List.Forall₂ (fun n n' => ¬n.value.Opposite n'.value) m.nodes m'.nodes

theorem matches_of_same (h : m.same m') : m.Matches m' := by
  rw [same, Bool.and_eq_true, beq_iff_eq, List.all_eq_true] at h
  refine List.forall₂_iff_zip.mpr ⟨by simpa [nodes] using h.left, fun {n n'} hz => ?_⟩
  have hn := h.right (n, n') hz
  simp only [Node.same, Bool.and_eq_true, beq_iff_eq] at hn
  exact ⟨hn.left.left, .inr hn.left.right⟩

theorem Matches.identity_eq (h : m.Matches m') (ho : ¬m.header.value.Opposite m'.header.value) :
    m.identity = m'.identity := by
  have ⟨⟨hk, hv⟩, _⟩ := List.forall₂_cons.mp h
  have hv := hv.eq_or_opposite.resolve_right ho
  rw [identity, identity, collection, collection, title, title, hk, hv]

theorem Matches.agrees {f : MemoFilter} (h : m.Matches m')
    (hf : (∃ c ∈ f.conditions, c.value.TestsZero) → m.ZerosAgree m') : f.Agrees m m' := by
  refine MemoFilter.agrees_of_conditions fun c hc => NodeFilter.positions_congr ?_
  rw [← List.forall₂_eq_eq_eq, List.forall₂_map_left_iff, List.forall₂_map_right_iff]
  refine List.forall₂_iff_zip.mpr ⟨h.length_eq, fun {n n'} hz => ?_⟩
  have ⟨hk, hv⟩ := List.forall₂_zip h hz
  have hc := ValueFilter.check_congr hv fun ht => List.forall₂_zip (hf ⟨c, hc, ht⟩) hz
  rw [NodeFilter.view, NodeFilter.view, hk, hc]

theorem Matches.zerosAgree (h : m.Matches m')
    (hf : MemoFilter.Agrees ⟨[{ value := .equals "0".toList }]⟩ m m') : m.ZerosAgree m' := by
  refine List.forall₂_iff_get.mpr ⟨h.length_eq, fun p hp hp' ho => ?_⟩
  have hn := List.getElem?_eq_getElem hp
  have hn' := List.getElem?_eq_getElem hp'
  have hc := MemoFilter.mem_positions_value (.equals "0".toList) hn
  rw [hf.positions, MemoFilter.mem_positions_value _ hn', ← Bool.eq_iff_iff] at hc
  exact (ValueFilter.check_eq_iff_of_opposite ho).mp hc.symm (.inl rfl)

-- The identity is that of the header alone, and a filter that compares with no text of a zero tells no
-- equal memos apart. For all filters to do so every zero has to be of the same sign in both memos.
theorem equal_interchangeable :
    (∀ m m' : Memo, m.same m' → m.Matches m') ∧
    ∀ m m' : Memo, m.Matches m' →
      (¬m.header.value.Opposite m'.header.value → m.identity = m'.identity) ∧
      (∀ f : MemoFilter, (∀ c ∈ f.conditions, ¬c.value.TestsZero) → f.Agrees m m') ∧
      ((∀ f : MemoFilter, f.Agrees m m') ↔ m.ZerosAgree m') := by
  refine ⟨fun _ _ => matches_of_same, fun m m' h => ⟨h.identity_eq, fun f hf => ?_, ?_⟩⟩
  case refine_1 => exact h.agrees fun ⟨c, hc, ht⟩ => absurd ht (hf c hc)
  case refine_2 => exact ⟨fun hf => h.zerosAgree (hf _), fun hz f => h.agrees fun _ => hz⟩

-- The zeros are in a data node, so the memos have one identity. The condition on the order of the
-- numbers is passed by both of them, and the one on the display text by one only.
theorem equal_interchangeable_zeros :
    let node (k : String) (v : Value) (as : Attrs) : Node := ⟨k.toList, v, as⟩
    let as : Attrs := [("a".toList, .bool true), ("b".toList, .integer 7)]
    let memo (neg : Bool) (as : Attrs) : Memo :=
      ⟨node "book" (.text "t".toList) as, [node "x" (.number (.zero neg)) []]⟩
    let m := memo false as
    let m' := memo true as.reverse
    let f : MemoFilter := ⟨[{ value := .compare .ge (.zero true) }]⟩
    m.same m' ∧ m.identity = m'.identity ∧ f.Agrees m m' ∧ f.positions m' = [1] ∧
      ¬m.ZerosAgree m' ∧ ¬∀ f : MemoFilter, f.Agrees m m' := by
  intro node as memo m m' f
  have hs : m.same m' := by decide +kernel
  have ⟨hm, hi⟩ := equal_interchangeable
  have ⟨hi, hf, ha⟩ := hi m m' (hm m m' hs)
  have hz : ¬m.ZerosAgree m' := by
    intro h
    have ⟨_, h⟩ := List.forall₂_cons.mp h
    exact (List.forall₂_cons.mp h).left (.zeros false)
  exact ⟨hs, hi nofun, hf f (by simp [f, ValueFilter.TestsZero]), by decide +kernel, hz,
    fun h => hz (ha.mp h)⟩

-- Two memos with nothing but a zero as their title.
theorem not_forall_same_interchangeable :
    (¬∀ m m' : Memo, m.same m' → m.identity = m'.identity) ∧
    (¬∀ (f : MemoFilter) (m m' : Memo), m.same m' → f.check m = f.check m') ∧
    ¬∀ (f : MemoFilter) (m m' : Memo), m.same m' → f.positions m = f.positions m' := by
  let memo (neg : Bool) : Memo := ⟨⟨"k".toList, .number (.zero neg), []⟩, []⟩
  let f : MemoFilter := .keyEquals "k".toList "0".toList
  have hs : (memo false).same (memo true) := by decide
  have hi : (memo false).identity ≠ (memo true).identity := by decide +kernel
  have hc : f.check (memo false) ≠ f.check (memo true) := by decide +kernel
  have hp : f.positions (memo false) ≠ f.positions (memo true) := by decide +kernel
  exact ⟨fun h => hi (h _ _ hs), fun h => hc (h f _ _ hs), fun h => hp (h f _ _ hs)⟩

end Memo
end MemoBase
