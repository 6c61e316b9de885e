import Mathlib.Data.Finset.Sort
import Mathlib.Data.Nat.Count
import MemoBase.Filter.Memo

namespace MemoBase

-- In an increasing list the place of a number is the count of the lesser ones.
theorem count_mem_getElem {l : List Nat} (hl : l.SortedLT) {k : Nat} (hk : k < l.length) :
    Nat.count (· ∈ l) l[k] = k := by
  have hb : {p ∈ Finset.range l[k] | p ∈ l} = (l.take k).toFinset := by
    ext p
    simp only [Finset.mem_filter, Finset.mem_range, List.mem_toFinset, List.mem_take_iff_getElem]
    constructor
    case mp =>
      intro ⟨hp, hm⟩
      obtain ⟨i, hi, rfl⟩ := List.getElem_of_mem hm
      exact ⟨i, by simpa [hi] using hl.getElem_lt_getElem_iff.mp hp, rfl⟩
    case mpr =>
      rintro ⟨i, hi, rfl⟩
      exact ⟨hl.getElem_lt_getElem_iff.mpr (by omega), List.getElem_mem _⟩
  rw [Nat.count_eq_card_filter_range, hb, List.toFinset_card_of_nodup hl.nodup.take,
    List.length_take_of_le hk.le]

theorem count_congr {p q : Nat → Prop} [DecidablePred p] [DecidablePred q] {k : Nat}
    (h : ∀ i < k, p i ↔ q i) : Nat.count p k = Nat.count q k :=
  le_antisymm (Nat.count_mono_left fun i hi => (h i hi).mp)
    (Nat.count_mono_left fun i hi => (h i hi).mpr)

variable {m m' : Memo} {p : Nat} {n : Node}

-- The header has position zero, and the data nodes follow it.
def Scope.Covers : Scope → Nat → Prop
  | header, p => p = 0
  | data,   p => 0 < p
  | any,    _ => True

instance (s : Scope) : DecidablePred s.Covers := fun p =>
  match s with
  | .header => inferInstanceAs (Decidable (p = 0))
  | .data   => inferInstanceAs (Decidable (0 < p))
  | .any    => inferInstanceAs (Decidable True)

namespace Memo

theorem mem_enumerate_iff {s : Scope} :
    (p, n) ∈ m.enumerate s ↔ s.Covers p ∧ m.nodes[p]? = some n := by
  cases s
  case header => simp +contextual [enumerate, Scope.Covers, nodes, eq_comm]
  case data   =>
    cases p <;> simp [enumerate, Scope.Covers, nodes, List.mk_mem_zipIdx_iff_le_and_getElem?_sub]
  case any    => simp [enumerate, Scope.Covers, List.mem_zipIdx_iff_getElem?]

theorem map_fst_zipIdx (ns : List Node) (k : Nat) :
    ((ns.zipIdx k).map fun p => (p.2, p.1)).map (·.1) = List.range' k ns.length := by
  rw [List.map_map, ← List.zipIdx_map_snd]
  rfl

theorem sortedLT_enumerate (m : Memo) (s : Scope) : ((m.enumerate s).map (·.1)).SortedLT := by
  cases s <;> rw [enumerate]
  case header => simp [List.sortedLT_iff_pairwise]
  case data   => exact map_fst_zipIdx m.data 1 ▸ List.sortedLT_range' 1 _ one_ne_zero
  case any    => exact map_fst_zipIdx m.nodes 0 ▸ List.sortedLT_range' 0 _ one_ne_zero

end Memo

namespace NodeFilter

variable {f : NodeFilter}

-- The nodes that are counted.
def Admits (f : NodeFilter) (m : Memo) (p : Nat) : Prop :=
  f.scope.Covers p ∧ ∃ n ∈ m.nodes[p]?, f.key.check n.key

instance : DecidablePred (f.Admits m) := fun p =>
  inferInstanceAs (Decidable (f.scope.Covers p ∧ ∃ n ∈ m.nodes[p]?, f.key.check n.key))

-- The number of a node is the count of those before it, whatever their values are.
structure Selects (f : NodeFilter) (m : Memo) (p : Nat) (n : Node) : Prop where
  node : m.nodes[p]? = some n
  scope : f.scope.Covers p
  key : f.key.check n.key
  index : f.index.check (Nat.count (f.Admits m) p)
  value : f.value.check n.value

theorem mem_candidates_iff :
    (p, n) ∈ f.candidates m ↔ m.nodes[p]? = some n ∧ f.scope.Covers p ∧ f.key.check n.key := by
  simp only [candidates, List.mem_filter, Memo.mem_enumerate_iff]
  tauto

theorem sortedLT_candidates : ((f.candidates m).map (·.1)).SortedLT :=
  ((m.sortedLT_enumerate f.scope).pairwise.sublist (List.filter_sublist.map _)).sortedLT

theorem mem_map_candidates_iff : p ∈ (f.candidates m).map (·.1) ↔ f.Admits m p := by
  simp only [List.mem_map, Prod.exists, exists_and_right, exists_eq_right, mem_candidates_iff, Admits,
    Option.mem_def]
  tauto

theorem count_of_getElem? {k : Nat} (h : (f.candidates m)[k]? = some (p, n)) :
    Nat.count (f.Admits m) p = k := by
  obtain ⟨hk, he⟩ := List.getElem?_eq_some_iff.mp h
  have hc := count_mem_getElem (sortedLT_candidates (f := f) (m := m)) (k := k) (by simpa using hk)
  simp only [List.getElem_map, he] at hc
  rw [← hc]
  exact count_congr fun q _ => mem_map_candidates_iff.symm

theorem mem_hits_iff : (p, n) ∈ f.hits m ↔ f.Selects m p n := by
  have hh : (p, n) ∈ f.hits m ↔
      ∃ k : Nat, (f.candidates m)[k]? = some (p, n) ∧ f.index.check k ∧ f.value.check n.value := by
    simp [hits, List.mem_zipIdx_iff_getElem?]
  rw [hh]
  constructor
  case mp =>
    intro ⟨k, hk, hi, hv⟩
    have ⟨hn, hs, hc⟩ := mem_candidates_iff.mp (List.mem_of_getElem? hk)
    exact ⟨hn, hs, hc, by rwa [count_of_getElem? hk], hv⟩
  case mpr =>
    intro ⟨hn, hs, hc, hi, hv⟩
    have ⟨k, hk⟩ := List.getElem?_of_mem (mem_candidates_iff.mpr ⟨hn, hs, hc⟩)
    exact ⟨k, hk, by rwa [count_of_getElem? hk] at hi, hv⟩

theorem mem_positions_iff : p ∈ f.positions m ↔ ∃ n, f.Selects m p n := by
  simp [positions, mem_hits_iff]

theorem hits_sublist (f : NodeFilter) (m : Memo) : (f.hits m).Sublist (f.candidates m) := by
  conv_rhs => rw [← List.zipIdx_map_fst 0 (f.candidates m)]
  exact List.filter_sublist.map _

theorem sortedLT_positions (f : NodeFilter) (m : Memo) : (f.positions m).SortedLT :=
  (sortedLT_candidates.pairwise.sublist ((f.hits_sublist m).map _)).sortedLT

theorem map_select (f : NodeFilter) (m : Memo) :
    (f.select m).map some = (f.positions m).map (m.nodes[·]?) := by
  rw [select, positions, List.map_map, List.map_map]
  exact List.map_congr_left fun _ h => (mem_hits_iff.mp h).node.symm

theorem check_iff : f.check m ↔ ∃ p n, f.Selects m p n := by
  simp [check, List.eq_nil_iff_forall_not_mem, mem_hits_iff]

-- The three ways to look at a selection agree with each other, and with the conditions on a position.
theorem selected_by_occurrence (f : NodeFilter) (m : Memo) :
    (∀ p, p ∈ f.positions m ↔ ∃ n, f.Selects m p n) ∧
    (f.positions m).SortedLT ∧
    (f.select m).map some = (f.positions m).map (m.nodes[·]?) ∧
    (f.check m ↔ ∃ p, p ∈ f.positions m) := by
  refine ⟨fun _ => mem_positions_iff, f.sortedLT_positions m, f.map_select m, ?_⟩
  simp only [check_iff, mem_positions_iff]

theorem Selects.lt_length (h : f.Selects m p n) : p < m.nodes.length :=
  (List.getElem?_eq_some_iff.mp h.node).choose

-- Whether a node is selected is decided by the nodes up to it.
theorem Selects.congr (hm : ∀ q ≤ p, m.nodes[q]? = m'.nodes[q]?) (h : f.Selects m p n) :
    f.Selects m' p n where
  node := hm p le_rfl ▸ h.node
  scope := h.scope
  key := h.key
  index := by
    have hc : Nat.count (f.Admits m) p = Nat.count (f.Admits m') p :=
      count_congr fun q hq => by rw [Admits, Admits, hm q hq.le]
    exact hc ▸ h.index
  value := h.value

end NodeFilter

theorem Memo.nodes_push (m : Memo) (n : Node) : (m.push n).nodes = m.nodes ++ [n] :=
  rfl

theorem Memo.nodes_foldl_push (m : Memo) (ns : List Node) :
    (ns.foldl push m).nodes = m.nodes ++ ns := by
  induction ns generalizing m
  case nil          => simp
  case cons n ns hi => rw [List.foldl_cons, hi, nodes_push, List.append_assoc, List.singleton_append]

theorem NodeFilter.selects_foldl_push_iff {f : NodeFilter} (hp : p < m.nodes.length)
    (ns : List Node) : f.Selects (ns.foldl Memo.push m) p n ↔ f.Selects m p n := by
  have hm : ∀ q ≤ p, (ns.foldl Memo.push m).nodes[q]? = m.nodes[q]? := fun q hq => by
    rw [Memo.nodes_foldl_push, List.getElem?_append_left (hq.trans_lt hp)]
  exact ⟨.congr hm, .congr fun q hq => (hm q hq).symm⟩

namespace MemoFilter

variable {f : MemoFilter}

theorem check_iff : f.check m ↔ ∀ c ∈ f.conditions, ∃ p n, c.Selects m p n := by
  simp [check, NodeFilter.check_iff]

-- The positions of the conditions are put together, and none of them is out of bounds.
theorem mem_positions : p ∈ f.positions m ↔ ∃ c ∈ f.conditions, ∃ n, c.Selects m p n := by
  simp only [positions, List.mem_filter, List.mem_range, List.any_map, List.any_eq_true,
    Function.comp_apply, List.contains_iff_mem, NodeFilter.mem_positions_iff, and_iff_right_iff_imp]
  intro ⟨_, _, _, h⟩
  exact h.lt_length

-- Without a condition on their number the nodes need not be counted.
theorem mem_positions_uncounted {key : KeyFilter} {value : ValueFilter} :
    p ∈ positions ⟨[{ key := key, value := value }]⟩ m ↔
      ∃ n, m.nodes[p]? = some n ∧ key.check n.key ∧ value.check n.value := by
  simp only [mem_positions, List.mem_singleton, exists_eq_left]
  constructor
  case mp  => exact fun ⟨n, h⟩ => ⟨n, h.node, h.key, h.value⟩
  case mpr => exact fun ⟨n, hn, hk, hv⟩ => ⟨n, hn, trivial, hk, rfl, hv⟩

theorem sortedLT_positions (f : MemoFilter) (m : Memo) : (f.positions m).SortedLT :=
  (List.pairwise_lt_range.sublist List.filter_sublist).sortedLT

-- Pushed nodes can be selected, but they take nothing away from what was selected before.
theorem positions_foldl_push (f : MemoFilter) (m : Memo) (ns : List Node) :
    (f.positions (ns.foldl Memo.push m)).filter (· < m.nodes.length) = f.positions m ∧
      (f.check m → f.check (ns.foldl Memo.push m)) := by
  constructor
  case left =>
    have hs := (f.sortedLT_positions (ns.foldl Memo.push m)).pairwise.filter (· < m.nodes.length)
    refine hs.sortedLT.eq_of_mem_iff (f.sortedLT_positions m) fun p => ?_
    simp only [List.mem_filter, mem_positions, decide_eq_true_eq]
    constructor
    case mp =>
      intro ⟨⟨c, hc, n, h⟩, hp⟩
      exact ⟨c, hc, n, NodeFilter.selects_foldl_push_iff hp ns |>.mp h⟩
    case mpr =>
      intro ⟨c, hc, n, h⟩
      exact ⟨⟨c, hc, n, NodeFilter.selects_foldl_push_iff h.lt_length ns |>.mpr h⟩, h.lt_length⟩
  case right =>
    simp only [check_iff]
    intro h c hc
    have ⟨p, n, h⟩ := h c hc
    exact ⟨p, n, NodeFilter.selects_foldl_push_iff h.lt_length ns |>.mpr h⟩

-- One of the pushed nodes is selected as well, the other one comes too late in the count.
theorem positions_foldl_push_negated :
    let node (k v : String) : Node := ⟨k.toList, .text v.toList, []⟩
    let m : Memo := ⟨node "book" "t", [node "x" "1", node "y" "2", node "x" "3"]⟩
    let f : MemoFilter :=
      ⟨[{ scope := .data, key := .not (.equals "x".toList), index := .range 0 1 },
        { key := .starts "bo".toList }]⟩
    let ns : List Node := [node "z" "4", node "y" "5"]
    f.check m ∧ f.positions m = [0, 2] ∧ f.positions (ns.foldl Memo.push m) = [0, 2, 4] ∧
      (f.positions (ns.foldl Memo.push m)).filter (· < m.nodes.length) = f.positions m ∧
      f.check (ns.foldl Memo.push m) := by
  intro node m f ns
  have hc : f.check m := by decide +kernel
  have ⟨hp, hc'⟩ := positions_foldl_push f m ns
  exact ⟨hc, by decide +kernel, by decide +kernel, hp, hc' hc⟩

end MemoFilter
end MemoBase
