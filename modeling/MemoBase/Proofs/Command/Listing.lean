import MemoBase.Command.Listing
import MemoBase.Proofs.Filter.Selection
import MemoBase.Proofs.Text.Lines

namespace MemoBase

open Text

-- The data nodes of a memo as they are written, with their positions.
def Memo.dataRows (m : Memo) : List (Nat × Text) :=
  (m.enumerate .data).map fun p => (p.1, p.2.write ['.'])

namespace Memo

variable {m : Memo} {p : Nat} {n : Node}

theorem map_snd_dataRows (m : Memo) : m.dataRows.map (·.2) = m.data.map (·.write ['.']) := by
  conv_rhs => rw [← List.zipIdx_map_fst 1 m.data]
  simp only [dataRows, enumerate, List.map_map, Function.comp_def]

theorem length_dataRows (m : Memo) : m.dataRows.length = m.data.length := by
  simp [dataRows, enumerate]

theorem sortedLT_dataRows (m : Memo) : (m.dataRows.map (·.1)).SortedLT := by
  rw [dataRows, List.map_map]
  exact m.sortedLT_enumerate .data

theorem mem_dataRows (hp : 0 < p) (h : m.nodes[p]? = some n) : (p, n.write ['.']) ∈ m.dataRows := by
  have hm : (p, n) ∈ m.enumerate .data := mem_enumerate_iff.mpr ⟨hp, h⟩
  exact List.mem_map.mpr ⟨(p, n), hm, rfl⟩

end Memo

namespace MemoFilter

variable {f : MemoFilter} {m : Memo} {verbosity : Int}

section Blocks

theorem map_fst_filter_enumerate (f : MemoFilter) (m : Memo) :
    ((m.enumerate .data).filter (·.1 ∈ f.positions m)).map (·.1) =
      (f.positions m).filter (0 < ·) := by
  have hs := (m.sortedLT_enumerate .data).pairwise
  have hf : (((m.enumerate .data).filter (·.1 ∈ f.positions m)).map (·.1)).SortedLT :=
    (hs.sublist (List.filter_sublist.map _)).sortedLT
  refine hf.eq_of_mem_iff ((f.sortedLT_positions m).pairwise.filter _).sortedLT fun p => ?_
  simp only [List.mem_map, List.mem_filter, Prod.exists, Memo.mem_enumerate_iff, decide_eq_true_eq]
  constructor
  case mp  => exact fun ⟨_, _, ⟨⟨hp, _⟩, hm⟩, he⟩ => he ▸ ⟨hm, hp⟩
  case mpr =>
    intro ⟨hm, hp⟩
    have ⟨_, _, n, h⟩ := mem_positions.mp hm
    exact ⟨p, n, ⟨⟨hp, h.node⟩, hm⟩, rfl⟩

-- Looking up the selected positions one by one is the same as going through all data nodes.
theorem selectedData_eq (f : MemoFilter) (m : Memo) :
    f.selectedData m = ((m.enumerate .data).filter (·.1 ∈ f.positions m)).map (·.2) := by
  rw [selectedData, ← map_fst_filter_enumerate, List.filterMap_map, ← List.filterMap_eq_map]
  refine List.filterMap_congr fun p hp => ?_
  have ⟨_, h⟩ := Memo.mem_enumerate_iff.mp (List.mem_filter.mp hp).left
  simpa using h

theorem map_write_selectedData (f : MemoFilter) (m : Memo) :
    (f.selectedData m).map (·.write ['.']) = (m.dataRows.filter (·.1 ∈ f.positions m)).map (·.2) := by
  rw [selectedData_eq, Memo.dataRows, List.filter_map, List.map_map, List.map_map]
  rfl

theorem block_of_nonpos (h : verbosity ≤ 0) (m : Memo) : f.block verbosity m = [headline m] := by
  simp [block, h]

theorem block_one (f : MemoFilter) (m : Memo) : f.block 1 m =
    headline m :: ((m.dataRows.filter (·.1 ∈ f.positions m)).map (·.2) ++ [[]]) := by
  simp [block, ← map_write_selectedData]

theorem block_of_one_lt (h : 1 < verbosity) (m : Memo) :
    f.block verbosity m = headline m :: (m.dataRows.map (·.2) ++ [[]]) := by
  have h₀ : ¬verbosity ≤ 0 := by omega
  have h₁ : verbosity ≠ 1 := by omega
  simp [block, h₀, h₁, Memo.map_snd_dataRows]

theorem listing_eq_joinLines (f : MemoFilter) (verbosity : Int) (ms : List Memo) :
    f.listing verbosity ms = joinLines ((f.filter ms).map fun m => joinLines (f.block verbosity m)) :=
  joinLines_flatMap (fun _ => List.cons_ne_nil _ _) _

end Blocks

-- A condition that leaves the header alone has selected a data node, which is shown then.
theorem exists_shown {c : NodeFilter} (h : f.check m) (hc : c ∈ f.conditions)
    (hz : 0 ∉ c.positions m) : ∃ p n, c.Selects m p n ∧
      (p, n.write ['.']) ∈ m.dataRows.filter (·.1 ∈ f.positions m) := by
  have ⟨p, n, hs⟩ := check_iff.mp h c hc
  have hp : 0 < p := by
    refine Nat.pos_of_ne_zero ?_
    rintro rfl
    exact hz (NodeFilter.mem_positions_iff.mpr ⟨n, hs⟩)
  have hm : p ∈ f.positions m := mem_positions.mpr ⟨c, hc, n, hs⟩
  exact ⟨p, n, hs, List.mem_filter.mpr ⟨Memo.mem_dataRows hp hs.node, by simpa using hm⟩⟩

theorem stats_eq (f : MemoFilter) (ms : List Memo) :
    f.stats ms =
      ⟨(f.filter ms).length, (f.filter ms).length + ((f.filter ms).flatMap Memo.dataRows).length⟩ := by
  rw [stats]
  congr 1
  induction f.filter ms
  case nil => rfl
  case cons m ms hi =>
    simp only [List.flatMap_cons, List.length_append, List.length_cons, hi, Memo.length_dataRows,
      Memo.nodes]
    omega

-- The levels are the same list of blocks with the same headlines. Of the data nodes, which are all
-- shown at the highest level, those that the filter selects are shown at the one below.
theorem levels_agree (f : MemoFilter) (ms : List Memo) :
    (∀ verbosity, f.listing verbosity ms =
      joinLines ((f.filter ms).map fun m => joinLines (f.block verbosity m))) ∧
    (∀ m verbosity, verbosity ≤ 0 → f.block verbosity m = [headline m]) ∧
    (∀ m verbosity, 1 < verbosity →
      f.block verbosity m = headline m :: (m.dataRows.map (·.2) ++ [[]])) ∧
    (∀ m, f.block 1 m =
      headline m :: ((m.dataRows.filter (·.1 ∈ f.positions m)).map (·.2) ++ [[]])) ∧
    (∀ m : Memo, (m.dataRows.map (·.1)).SortedLT) ∧
    (∀ m ∈ f.filter ms, ∀ c ∈ f.conditions, 0 ∉ c.positions m → ∃ p n, c.Selects m p n ∧
      (p, n.write ['.']) ∈ m.dataRows.filter (·.1 ∈ f.positions m)) ∧
    f.stats ms =
      ⟨(f.filter ms).length, (f.filter ms).length + ((f.filter ms).flatMap Memo.dataRows).length⟩ := by
  refine ⟨fun v => listing_eq_joinLines f v ms, fun m v h => block_of_nonpos h m,
    fun m v h => block_of_one_lt h m, f.block_one, Memo.sortedLT_dataRows, ?_, stats_eq f ms⟩
  exact fun m hm c hc hz => exists_shown (List.mem_filter.mp hm).right hc hz

-- One node is selected twice and shown once, and the selected header is shown as headline only.
theorem levels_agree_twice :
    let node (k v : String) : Node := ⟨k.toList, .text v.toList, []⟩
    let m : Memo := ⟨node "book" "t", [node "tag" "a", node "year" "7", node "tag" "b"]⟩
    let c : NodeFilter := { key := .equals "tag".toList, index := .single 1 }
    let f : MemoFilter := ⟨[{ value := .equals "b".toList }, { scope := .header }, c]⟩
    let ms : List Memo := [m, ⟨node "book" "u", [node "tag" "b"]⟩]
    f.positions m = [0, 3] ∧
      f.listing 1 ms = "@book t\n.tag b\n".toList ∧
      f.block 1 m = headline m :: ((m.dataRows.filter (·.1 ∈ f.positions m)).map (·.2) ++ [[]]) ∧
      f.block 5 m = headline m :: (m.dataRows.map (·.2) ++ [[]]) ∧ f.block (-1) m = [headline m] ∧
      (∃ p n, c.Selects m p n ∧
        (p, n.write ['.']) ∈ m.dataRows.filter (·.1 ∈ f.positions m)) ∧
      f.stats ms = ⟨1, 4⟩ := by
  intro node m c f ms
  have ⟨_, hn, hl, ho, _, hc, hs⟩ := levels_agree f ms
  have hm : m ∈ f.filter ms := by decide +kernel
  have hz : 0 ∉ c.positions m := by decide +kernel
  exact ⟨by decide +kernel, by decide +kernel, ho m, hl m 5 (by decide), hn m (-1) (by decide),
    hc m hm c (by simp [f]) hz, by decide +kernel⟩

end MemoFilter
end MemoBase
