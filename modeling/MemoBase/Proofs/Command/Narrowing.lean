import MemoBase.Command.Listing
import MemoBase.Command.Lookup
import MemoBase.Proofs.Filter.Conjunction

namespace MemoBase

namespace MemoFilter

def choose {ε : Type} (find : Text → Except ε MemoFilter) (fallback : MemoFilter)
    (s? : Option Text) : Except ε MemoFilter :=
  match given s? with
  | some s => find s
  | none   => .ok fallback

-- The filter that an option stands for. Nothing and the empty text stand for the same.
structure Chosen {ε : Type} (find : Text → Except ε MemoFilter) (fallback : MemoFilter)
    (s? : Option Text) (f : MemoFilter) : Prop where
  given  : ∀ s ∈ s?, s ≠ [] → find s = .ok f
  absent : (∀ s ∈ s?, s = []) → f = fallback

-- Every memo that passes a filter passes one of two others, and no memo passes both of them.
structure Divided (f g h : MemoFilter) (ms : List Memo) : Prop where
  disjoint    : (g.filter ms).Disjoint (h.filter ms)
  interleaved : f.filter ms = ms.filter fun m => g.check m || h.check m
  memos       : (f.stats ms).memos = (g.stats ms).memos + (h.stats ms).memos
  nodes       : (f.stats ms).nodes = (g.stats ms).nodes + (h.stats ms).nodes

section Given

variable {s? : Option Text} {s : Text}

theorem given_eq_some_iff : given s? = some s ↔ s? = some s ∧ s ≠ [] := by
  simp [given]

theorem given_eq_none_iff : given s? = none ↔ ∀ s ∈ s?, s = [] := by
  simp [given]

end Given

variable {ms : List Memo} {b : BaseFilter} {name? query? : Option Text} {f g h : MemoFilter}

section Choice

variable {ε : Type} {find : Text → Except ε MemoFilter} {fallback : MemoFilter} {s? : Option Text}

theorem choose_eq_ok_iff : choose find fallback s? = .ok f ↔ Chosen find fallback s? f := by
  rw [choose]
  cases hs : MemoFilter.given s?
  case none =>
    have ha := given_eq_none_iff.mp hs
    constructor
    case mp  => exact fun hf => ⟨fun s hm hn => absurd (ha s hm) hn, fun _ => (Except.ok.inj hf).symm⟩
    case mpr => exact fun h => congrArg Except.ok (h.absent ha).symm
  case some s =>
    obtain ⟨rfl, hn⟩ := given_eq_some_iff.mp hs
    constructor
    case mp  => exact fun hf => ⟨fun t ht _ => Option.some.inj ht ▸ hf, fun ha => absurd (ha s rfl) hn⟩
    case mpr => exact fun h => h.given s rfl hn

theorem Chosen.unique (hf : Chosen find fallback s? f) (hg : Chosen find fallback s? g) : f = g :=
  Except.ok.inj ((choose_eq_ok_iff.mpr hf).symm.trans (choose_eq_ok_iff.mpr hg))

end Choice

theorem base_eq_choose (ms : List Memo) (b : BaseFilter) (name? : Option Text) :
    base ms b name? = choose (named ms) b.memoFilter name? :=
  rfl

theorem and_nil (f : MemoFilter) : f.and ⟨[]⟩ = f := by
  simp [and]

-- No query adds no condition.
theorem build_eq_choose (ms : List Memo) (b : BaseFilter) (name? query? : Option Text) :
    build ms b name? query? = do
      let g ← choose (named ms) b.memoFilter name?
      let h ← (choose ofQuery ⟨[]⟩ query?).mapError .query
      return g.and h := by
  rw [build, ← base_eq_choose]
  refine bind_congr fun g => ?_
  rw [choose]
  cases given query?
  case none       => exact congrArg Except.ok g.and_nil.symm
  case some query => rfl

theorem build_eq_ok_iff : build ms b name? query? = .ok f ↔
    ∃ g h, Chosen (named ms) b.memoFilter name? g ∧ Chosen ofQuery ⟨[]⟩ query? h ∧ f = g.and h := by
  rw [build_eq_choose]
  simp only [← choose_eq_ok_iff]
  cases choose (named ms) b.memoFilter name? <;> cases choose ofQuery ⟨[]⟩ query? <;>
    simp [bind, Except.bind, pure, Except.pure, Except.mapError, eq_comm]

theorem Chosen.check_iff (hh : Chosen ofQuery ⟨[]⟩ query? h) (m : Memo) :
    h.check m ↔ ∀ query ∈ query?, query ≠ [] → ∃ h, ofQuery query = .ok h ∧ h.check m := by
  constructor
  case mp => exact fun hm query hq hn => ⟨h, hh.given query hq hn, hm⟩
  case mpr =>
    intro hm
    by_cases ha : ∀ query ∈ query?, query = []
    case pos => rw [hh.absent ha]; rfl
    case neg =>
      push Not at ha
      obtain ⟨query, hq, hn⟩ := ha
      obtain ⟨h', hh', hm⟩ := hm query hq hn
      cases (hh.given query hq hn).symm.trans hh'
      exact hm

theorem sublist_filter_and (f g : MemoFilter) (ms : List Memo) :
    ((f.and g).filter ms).Sublist (f.filter ms) := by
  rw [filter_and, filter_comm]
  exact List.filter_sublist

section Division

-- Two filters of which exactly one lets a memo pass that the first filter lets pass.
variable (hor : ∀ m, f.check m = (g.check m || h.check m)) (hand : ∀ m, ¬(g.check m ∧ h.check m))

include hor hand in
theorem filter_perm (ms : List Memo) : (g.filter ms ++ h.filter ms).Perm (f.filter ms) := by
  have hg : g.filter ms = (f.filter ms).filter g.check := by
    simp only [filter, List.filter_filter]
    exact List.filter_congr fun m _ => by simp +contextual [hor]
  have hh : h.filter ms = (f.filter ms).filter (!g.check ·) := by
    simp only [filter, List.filter_filter]
    refine List.filter_congr fun m _ => ?_
    have := hand m
    grind
  rw [hg, hh]
  exact List.filter_append_perm g.check (f.filter ms)

include hor hand in
theorem divided (ms : List Memo) : Divided f g h ms where
  disjoint := fun m hg hh =>
    hand m ⟨(List.mem_filter.mp hg).right, (List.mem_filter.mp hh).right⟩
  interleaved := List.filter_congr fun m _ => hor m
  memos := by
    rw [stats, stats, stats, ← (filter_perm hor hand ms).length_eq, List.length_append]
  nodes := by
    have hp := (filter_perm hor hand ms).flatMap_right Memo.nodes
    rw [stats, stats, stats, ← hp.length_eq, List.flatMap_append, List.length_append]

end Division
end MemoFilter

open MemoFilter

namespace BaseFilter

theorem check_header {key : KeyFilter} (m : Memo) :
    (⟨[{ scope := .header, key }]⟩ : MemoFilter).check m = key.check m.collection := by
  cases hk : key.check m.header.key <;>
    simp [MemoFilter.check, NodeFilter.check, NodeFilter.hits, NodeFilter.candidates, Memo.enumerate,
      IndexFilter.check, ValueFilter.check, Memo.collection, hk]

-- The memos of the system are those of the reserved collections.
theorem check_memoFilter (b : BaseFilter) (m : Memo) : b.memoFilter.check m =
    match b with
    | all    => true
    | system => systemHead.isPrefixOf m.collection
    | data   => !systemHead.isPrefixOf m.collection := by
  cases b
  case all            => rfl
  case system | data  => exact check_header m

end BaseFilter

namespace MemoFilter

theorem divided_and (h : MemoFilter) (ms : List Memo) :
    Divided (BaseFilter.all.memoFilter.and h) (BaseFilter.system.memoFilter.and h)
      (BaseFilter.data.memoFilter.and h) ms := by
  refine divided (fun m => ?or) (fun m => ?and) ms
  all_goals
    simp only [check_and, BaseFilter.check_memoFilter]
    cases BaseFilter.systemHead.isPrefixOf m.collection <;> simp

theorem exists_base_of_build (hf : build ms b name? query? = .ok f) :
    ∃ g, build ms b name? none = .ok g ∧ Chosen (named ms) b.memoFilter name? g ∧
      (∀ m, f.check m ↔ g.check m ∧
        ∀ query ∈ query?, query ≠ [] → ∃ h, ofQuery query = .ok h ∧ h.check m) ∧
      ∀ ms', (f.filter ms').Sublist (g.filter ms') := by
  obtain ⟨g, h, hg, hh, rfl⟩ := build_eq_ok_iff.mp hf
  refine ⟨g, build_eq_ok_iff.mpr ⟨g, ⟨[]⟩, hg, ⟨nofun, fun _ => rfl⟩, g.and_nil.symm⟩, hg, fun m => ?_,
    sublist_filter_and g h⟩
  rw [check_and, Bool.and_eq_true, hh.check_iff]

-- Without a name the same conditions are added to each of the bases.
theorem exists_added_of_build (hn : ∀ name ∈ name?, name = []) {f : BaseFilter → MemoFilter}
    (hf : ∀ b, build ms b name? query? = .ok (f b)) : ∃ h, ∀ b, f b = b.memoFilter.and h := by
  obtain ⟨_, h, _, hh, _⟩ := build_eq_ok_iff.mp (hf .all)
  refine ⟨h, fun b => ?_⟩
  obtain ⟨g, h', hg, hh', he⟩ := build_eq_ok_iff.mp (hf b)
  rw [he, hg.absent hn, hh.unique hh']

-- A query takes memos away and adds none. Whatever the query is, the memos that pass it over all memos
-- are those of the system and those of the data.
theorem build_narrowed_and_divided (ms : List Memo) (name? query? : Option Text) :
    (∀ b f, build ms b name? query? = .ok f ↔
      ∃ g h, Chosen (named ms) b.memoFilter name? g ∧ Chosen ofQuery ⟨[]⟩ query? h ∧ f = g.and h) ∧
    (∀ b f, build ms b name? query? = .ok f →
      ∃ g, build ms b name? none = .ok g ∧ Chosen (named ms) b.memoFilter name? g ∧
        (∀ m, f.check m ↔ g.check m ∧
          ∀ query ∈ query?, query ≠ [] → ∃ h, ofQuery query = .ok h ∧ h.check m) ∧
        ∀ ms', (f.filter ms').Sublist (g.filter ms')) ∧
    ((∀ name ∈ name?, name = []) → ∀ f : BaseFilter → MemoFilter,
      (∀ b, build ms b name? query? = .ok (f b)) →
        ∀ ms', Divided (f .all) (f .system) (f .data) ms') := by
  refine ⟨fun b f => build_eq_ok_iff, fun b f => exists_base_of_build, fun hn f hf ms' => ?_⟩
  obtain ⟨h, hb⟩ := exists_added_of_build hn hf
  rw [hb, hb, hb]
  exact divided_and h ms'

theorem build_narrowed_and_divided_years :
    let node (k v : String) : Node := ⟨k.toList, .text v.toList, []⟩
    let old : Memo := ⟨node "mr:filter" "old", [node "mql" "year<1960", node "year" "1999"]⟩
    let ms : List Memo := [⟨node "book" "a", [node "year" "1954"]⟩, old,
      ⟨node "book" "b", [node "year" "1937"]⟩]
    let year (c : Comparison) (n : Int) : MemoFilter :=
      ⟨[{ key := .equals "year".toList, value := .compare c ((Single.ofInt n).convert .double) }]⟩
    let f (b : BaseFilter) : MemoFilter := b.memoFilter.and (year .gt 1950)
    let g : MemoFilter := (year .lt 1960).and (year .gt 1950)
    build ms .all (some "old".toList) (some "year>1950".toList) = .ok g ∧
      (g.filter ms).map Memo.title = [['a']] ∧
      (∃ g', build ms .all (some "old".toList) none = .ok g' ∧ (g.filter ms).Sublist (g'.filter ms)) ∧
      (f .system).filter ms = [old] ∧ Divided (f .all) (f .system) (f .data) ms := by
  intro node old ms year f g
  have hg : build ms .all (some "old".toList) (some "year>1950".toList) = .ok g := by decide +kernel
  have hf (b : BaseFilter) : build ms b (some []) (some "year>1950".toList) = .ok (f b) := by
    cases b <;> decide +kernel
  have ⟨_, hn, _⟩ := build_narrowed_and_divided ms (some "old".toList) (some "year>1950".toList)
  have ⟨_, _, hd⟩ := build_narrowed_and_divided ms (some []) (some "year>1950".toList)
  have ⟨g', hg', _, _, hs⟩ := hn .all g hg
  exact ⟨hg, by decide +kernel, ⟨g', hg', hs ms⟩, by decide +kernel, hd (by simp) f hf ms⟩

end MemoFilter
end MemoBase
