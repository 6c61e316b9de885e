import MemoBase.Filter.Shelf
import MemoBase.Proofs.Filter.Selection

namespace MemoBase

theorem Memo.at?_natCast (m : Memo) (p : Nat) : m.at? p = m.nodes[p]? := by
  simp [at?]

namespace Shelf

theorem labelled_put (s : Shelf) (name : Text) (fs : List (Nat × NodeFilter)) :
    (s.put name fs).labelled name = fs := by
  simp [labelled, put]

theorem get_extend (s : Shelf) (name other : Text) :
    (s.extend name other).get name = (s.get name).and (s.get other) := by
  simp [get, extend, and, labelled_put, MemoFilter.and]

end Shelf

namespace MemoFilter

variable {f g : MemoFilter} {m : Memo}

theorem check_and (f g : MemoFilter) (m : Memo) : (f.and g).check m = (f.check m && g.check m) :=
  List.all_append

theorem filter_and (f g : MemoFilter) (ms : List Memo) :
    (f.and g).filter ms = f.filter (g.filter ms) := by
  simp only [filter, List.filter_filter]
  exact List.filter_congr fun m _ => check_and f g m

theorem filter_comm (f g : MemoFilter) (ms : List Memo) :
    f.filter (g.filter ms) = g.filter (f.filter ms) := by
  simp only [filter, List.filter_filter, Bool.and_comm]

theorem toFinset_positions_and (f g : MemoFilter) (m : Memo) :
    ((f.and g).positions m).toFinset = (f.positions m).toFinset ∪ (g.positions m).toFinset := by
  ext p
  simp only [List.mem_toFinset, Finset.mem_union, mem_positions, and, List.mem_append, or_and_right,
    exists_or]

section Members

variable (h : ∀ c, c ∈ f.conditions ↔ c ∈ g.conditions)

include h in
theorem check_congr (m : Memo) : f.check m = g.check m := by
  rw [Bool.eq_iff_iff, check_iff, check_iff]
  exact forall_congr' fun c => imp_congr_left (h c)

include h in
theorem positions_congr (m : Memo) : f.positions m = g.positions m := by
  refine (f.sortedLT_positions m).eq_of_mem_iff (g.sortedLT_positions m) fun p => ?_
  simp only [mem_positions, h]

end Members

-- All positions are those of nodes, so none is passed over.
theorem map_select (f : MemoFilter) (m : Memo) :
    (f.select m).map some = (f.positions m).map fun p : Nat => m.at? p := by
  simp only [Memo.at?_natCast]
  rw [select, List.map_filterMap_some_eq_filter_map_isSome, List.filter_eq_self, List.forall_mem_map]
  intro p hp
  have ⟨_, _, _, h⟩ := mem_positions.mp hp
  simp [h.node]

theorem mem_select_of_selects {c : NodeFilter} {p : Nat} {n : Node} (hc : c ∈ f.conditions)
    (h : c.Selects m p n) : n ∈ f.select m :=
  List.mem_filterMap.mpr ⟨p, mem_positions.mpr ⟨c, hc, n, h⟩, h.node⟩

theorem mem_positions_iff_of_conditions {p : Nat} :
    p ∈ f.positions m ↔ ∃ c ∈ f.conditions, p ∈ c.positions m := by
  simp only [mem_positions, NodeFilter.mem_positions_iff]

theorem exists_selected {c : NodeFilter} (h : f.check m) (hc : c ∈ f.conditions) :
    ∃ p ∈ f.positions m, ∃ n ∈ f.select m, c.Selects m p n := by
  have ⟨p, n, hs⟩ := check_iff.mp h c hc
  exact ⟨p, mem_positions.mpr ⟨c, hc, n, hs⟩, n, mem_select_of_selects hc hs, hs⟩

-- What filters do together comes down to what each of them does, and what a filter does to which
-- conditions it has.
theorem filters_conjoined (f g : MemoFilter) :
    (∀ ms, (f.and g).filter ms = g.filter (f.filter ms) ∧
      (f.and g).filter ms = f.filter (g.filter ms)) ∧
    (∀ (s : Shelf) (x y : Text), s.get x = f → s.get y = g → (s.extend x y).get x = f.and g) ∧
    (∀ m, ((f.and g).positions m).toFinset = (f.positions m).toFinset ∪ (g.positions m).toFinset) ∧
    (∀ f' : MemoFilter, (∀ c, c ∈ f'.conditions ↔ c ∈ f.conditions) →
      ∀ m, f'.check m = f.check m ∧ f'.positions m = f.positions m) ∧
    ∀ m, (f.positions m).SortedLT ∧
      (∀ p, p ∈ f.positions m ↔ ∃ c ∈ f.conditions, p ∈ c.positions m) ∧
      (f.select m).map some = (f.positions m).map (fun p : Nat => m.at? p) ∧
      (f.check m → ∀ c ∈ f.conditions, ∃ p ∈ f.positions m, ∃ n ∈ f.select m, c.Selects m p n) := by
  refine ⟨fun ms => ⟨?after, filter_and f g ms⟩, fun s x y hf hg => ?extend,
    toFinset_positions_and f g, fun f' h m => ⟨check_congr h m, positions_congr h m⟩,
    fun m => ⟨f.sortedLT_positions m, fun _ => mem_positions_iff_of_conditions, f.map_select m,
      fun h c hc => exists_selected h hc⟩⟩
  case after  => rw [filter_and, filter_comm]
  case extend => rw [Shelf.get_extend, hf, hg]

theorem filters_conjoined_tags :
    let node (k v : String) : Node := ⟨k.toList, .text v.toList, []⟩
    let m : Memo := ⟨node "book" "t", [node "tag" "a", node "tag" "b", node "tag" "b"]⟩
    let c : NodeFilter := { key := .equals "tag".toList, index := .single 1 }
    let f : MemoFilter := ⟨[{ scope := .header }, c]⟩
    let g : MemoFilter := ⟨[{ value := .equals "b".toList }]⟩
    let s : Shelf := Shelf.define (Shelf.define {} "f".toList f) "g".toList g
    let f' : MemoFilter := ⟨c :: f.conditions⟩
    (s.extend "f".toList "g".toList).get "f".toList = f.and g ∧
      f'.positions m = f.positions m ∧ f.positions m = [0, 2] ∧
      ∃ p ∈ f.positions m, ∃ n ∈ f.select m, c.Selects m p n := by
  intro node m c f g s f'
  have ⟨_, he, _, hp, hm⟩ := filters_conjoined f g
  have hf : ∀ c', c' ∈ f'.conditions ↔ c' ∈ f.conditions := by simp [f', f]
  exact ⟨he s _ _ (by decide) (by decide), (hp f' hf m).right, by decide +kernel,
    (hm m).right.right.right (by decide +kernel) c (by simp [f])⟩

end MemoFilter
end MemoBase
