import Mathlib.Data.List.Forall2
import MemoBase.Sheet.Include

namespace MemoBase

namespace Reading

variable {r r₁ r₂ : Reading} {ms : List Memo} {js : List Rejection} {e : FileError}

def Succeeds (r : Reading) (ms : List Memo) (js : List Rejection) : Prop :=
  r.memos = .ok ms ∧ r.rejected = js

theorem own_succeeds_iff {rs : List Record} :
    (own rs).Succeeds ms js ↔ ms = rs.map Record.memo ∧ js = [] := by
  simp [Succeeds, memos, own, Except.map, eq_comm]

theorem memos_own (rs : List Record) : (own rs).memos = .ok (rs.map Record.memo) :=
  rfl

theorem reject_succeeds_iff {j : Rejection} : (reject j).Succeeds ms js ↔ ms = [] ∧ js = [j] := by
  simp [Succeeds, memos, reject, Except.map, eq_comm]

theorem not_fail_succeeds : ¬(fail e).Succeeds ms js := by
  simp [Succeeds, memos, fail, Except.map]

theorem memos_fail_error_iff {e' : FileError} : (fail e).memos = .error e' ↔ e = e' := by
  simp [memos, fail, Except.map]

theorem memos_reject_ne_error {j : Rejection} : (reject j).memos ≠ .error e := by
  simp [memos, reject, Except.map]

theorem memos_append_error_iff :
    (r₁.append r₂).memos = .error e ↔
      r₁.memos = .error e ∨ (∃ ms js, r₁.Succeeds ms js) ∧ r₂.memos = .error e := by
  cases h₁ : r₁.outcome <;> cases h₂ : r₂.outcome <;>
    simp [append, memos, Succeeds, h₁, h₂, Except.map]

theorem append_succeeds_iff :
    (r₁.append r₂).Succeeds ms js ↔
      ∃ ms₁ js₁ ms₂ js₂, r₁.Succeeds ms₁ js₁ ∧ r₂.Succeeds ms₂ js₂ ∧
        ms = ms₁ ++ ms₂ ∧ js = js₁ ++ js₂ := by
  cases h₁ : r₁.outcome <;> cases h₂ : r₂.outcome <;>
    simp [append, memos, Succeeds, h₁, h₂, Except.map, eq_comm]

section Concat

variable {α : Type} {f : α → Reading} {l : List α}

-- All of the readings succeed, and what they give is put together.
theorem concat_succeeds_iff :
    (concat (l.map f)).Succeeds ms js ↔
      ∃ gs : List (List Memo × List Rejection),
        List.Forall₂ (fun a g => (f a).Succeeds g.1 g.2) l gs ∧
        ms = gs.flatMap (·.1) ∧ js = gs.flatMap (·.2) := by
  induction l generalizing ms js
  case nil => simp [concat, own_succeeds_iff]
  case cons a l hi =>
    rw [List.map_cons, concat, List.foldr_cons, append_succeeds_iff]
    constructor
    case mp =>
      intro ⟨ms₁, js₁, ms₂, js₂, h₁, h₂, hm, hj⟩
      have ⟨gs, hg, hm₂, hj₂⟩ := hi.mp h₂
      exact ⟨(ms₁, js₁) :: gs, .cons h₁ hg, by simp [hm, hm₂], by simp [hj, hj₂]⟩
    case mpr =>
      intro ⟨gs, hg, hm, hj⟩
      cases hg
      case cons g gs h₁ hg =>
        exact ⟨g.1, g.2, _, _, h₁, hi.mpr ⟨gs, hg, rfl, rfl⟩, hm, hj⟩

-- One of the readings fails, and all before it succeed.
theorem memos_concat_error_iff :
    (concat (l.map f)).memos = .error e ↔
      ∃ before a after, l = before ++ a :: after ∧ (∀ b ∈ before, ∃ ms js, (f b).Succeeds ms js) ∧
        (f a).memos = .error e := by
  induction l
  case nil => simp [concat, memos, own, Except.map]
  case cons a l hi =>
    rw [List.map_cons, concat, List.foldr_cons, memos_append_error_iff]
    constructor
    case mp =>
      rintro (h | ⟨h₁, h₂⟩)
      case inl => exact ⟨[], a, l, rfl, by simp, h⟩
      case inr =>
        have ⟨before, b, after, hl, hb, hf⟩ := hi.mp h₂
        exact ⟨a :: before, b, after, by simp [hl], by simpa using ⟨h₁, hb⟩, hf⟩
    case mpr =>
      intro ⟨before, b, after, hl, hb, hf⟩
      cases before
      case nil =>
        cases hl
        exact .inl hf
      case cons =>
        cases hl
        have ⟨h₁, hb⟩ := List.forall_mem_cons.mp hb
        exact .inr ⟨h₁, hi.mpr ⟨_, b, after, rfl, hb, hf⟩⟩

end Concat
end Reading

-- The paths that the headers of a sheet in a directory include, in their order.
def Sheet.directives (dir : Path) (s : Text) : List Path :=
  ((Memo.ofText s).filter (·.collection = "mr:include".toList)).map fun m =>
    dir.join (Path.ofText m.title)

theorem Sheet.map_includes (dir : Path) (s : Text) :
    (includes (ofText s)).map (fun name => dir.join (Path.ofText name)) = directives dir s := by
  rw [includes, directives, Memo.ofText, List.filter_map, List.map_map, List.map_map]
  rfl

-- No header of the text includes a file.
def Text.Standalone (s : Text) : Prop :=
  ∀ m ∈ Memo.ofText s, m.collection ≠ Sheet.includeCollection

instance (s : Text) : Decidable s.Standalone :=
  List.decidableBAll _ (Memo.ofText s)

theorem Text.Standalone.includes_eq_nil {s : Text} (h : s.Standalone) :
    Sheet.includes (Sheet.ofText s) = [] := by
  simp only [Sheet.includes, List.map_eq_nil_iff, List.filter_eq_nil_iff, decide_eq_true_eq]
  exact fun r hr => h r.memo (List.mem_map_of_mem hr)

namespace Disk

variable (d : Disk) (trail : List Path)

-- The rejection of an include that stands in an included file.
def barred (p : Path) : Rejection :=
  ⟨p, trail, if d.resolve p ∈ trail then .recursive else .nested⟩

-- What an include adds to a sheet that `trail` leads to: one rejection, or the memos of one file. The
-- includes of that file are all rejected.
inductive Adds (p : Path) : List Memo → List Rejection → Prop
  | rejected :
    p.hasNul = false → d.resolve p ∈ trail → Adds p [] [⟨p, trail, .recursive⟩]
  | accepted {s : Text} :
    d.resolve p ∉ trail → d.read p = .ok s →
    (∀ q ∈ Sheet.directives p.parent s, q.hasNul = false) →
    Adds p (Memo.ofText s)
      ((Sheet.directives p.parent s).map (d.barred (trail ++ [d.resolve p])))

-- The faults of an include that is not rejected: the file cannot be read, or it names a path with a
-- NUL, which cannot be resolved.
inductive Breaks (p : Path) : FileError → Prop
  | unreadable {e : FileError} :
    p.hasNul ∨ d.resolve p ∉ trail → d.read p = .error e → Breaks p e
  | unresolvable {s : Text} {q : Path} :
    d.resolve p ∉ trail → d.read p = .ok s → q ∈ Sheet.directives p.parent s → q.hasNul →
    Breaks p .nul

-- The memos of a sheet come first, then what its includes add, in their order.
def Yields (dir : Path) (s : Text) (ms : List Memo) (js : List Rejection) : Prop :=
  ∃ gs : List (List Memo × List Rejection),
    List.Forall₂ (fun p g => d.Adds trail p g.1 g.2) (Sheet.directives dir s) gs ∧
    ms = Memo.ofText s ++ gs.flatMap (·.1) ∧ js = gs.flatMap (·.2)

-- The first include with a fault ends the reading.
def Fails (dir : Path) (s : Text) (e : FileError) : Prop :=
  ∃ before p after, Sheet.directives dir s = before ++ p :: after ∧
    (∀ q ∈ before, ∃ ms js, d.Adds trail q ms js) ∧ d.Breaks trail p e

-- An include, once its path is put together.
def enter (levels : Nat) (p : Path) : Reading :=
  if p.hasNul then .fail .nul
  else if d.resolve p ∈ trail then .reject ⟨p, trail, .recursive⟩
  else
    match levels with
    | 0          => .reject ⟨p, trail, .nested⟩
    | levels + 1 =>
      match d.read p with
      | .error e => .fail e
      | .ok s    => Sheet.expand (d.follow levels p.parent (trail ++ [d.resolve p])) s

variable {d trail} {dir p : Path} {s : Text} {ms : List Memo} {js : List Rejection} {e : FileError}

theorem follow_eq_enter (levels : Nat) :
    d.follow levels dir trail = fun name => d.enter trail levels (dir.join (Path.ofText name)) := by
  cases levels <;> rfl

theorem expand_follow (levels : Nat) :
    Sheet.expand (d.follow levels dir trail) s =
      (Reading.own (Sheet.ofText s)).append
        (.concat ((Sheet.directives dir s).map (d.enter trail levels))) := by
  rw [Sheet.expand, follow_eq_enter, ← Sheet.map_includes, List.map_map]
  rfl

theorem expand_succeeds_iff {levels : Nat} :
    (Sheet.expand (d.follow levels dir trail) s).Succeeds ms js ↔
      ∃ gs : List (List Memo × List Rejection),
        List.Forall₂ (fun p g => (d.enter trail levels p).Succeeds g.1 g.2)
          (Sheet.directives dir s) gs ∧
        ms = Memo.ofText s ++ gs.flatMap (·.1) ∧ js = gs.flatMap (·.2) := by
  rw [expand_follow, Reading.append_succeeds_iff]
  constructor
  case mp =>
    intro ⟨ms₁, js₁, ms₂, js₂, h₁, h₂, hm, hj⟩
    have ⟨hm₁, hj₁⟩ := Reading.own_succeeds_iff.mp h₁
    have ⟨gs, hg, hm₂, hj₂⟩ := Reading.concat_succeeds_iff.mp h₂
    exact ⟨gs, hg, by rw [hm, hm₁, hm₂, Memo.ofText], by simp [hj, hj₁, hj₂]⟩
  case mpr =>
    intro ⟨gs, hg, hm, hj⟩
    exact ⟨_, _, _, _, Reading.own_succeeds_iff.mpr ⟨rfl, rfl⟩,
      Reading.concat_succeeds_iff.mpr ⟨gs, hg, rfl, rfl⟩, hm, hj⟩

theorem memos_expand_error_iff {levels : Nat} :
    (Sheet.expand (d.follow levels dir trail) s).memos = .error e ↔
      ∃ before p after, Sheet.directives dir s = before ++ p :: after ∧
        (∀ q ∈ before, ∃ ms js, (d.enter trail levels q).Succeeds ms js) ∧
        (d.enter trail levels p).memos = .error e := by
  rw [expand_follow, Reading.memos_append_error_iff, Reading.memos_concat_error_iff]
  constructor
  case mp =>
    rintro (h | ⟨_, h⟩)
    case inl => simp [Reading.memos, Reading.own, Except.map] at h
    case inr => exact h
  case mpr => exact fun h => .inr ⟨⟨_, _, Reading.own_succeeds_iff.mpr ⟨rfl, rfl⟩⟩, h⟩

section Levels

theorem read_of_hasNul (h : p.hasNul) : d.read p = .error .nul := by
  simp [read, h]

-- When no further level may be entered, every path that can be resolved is barred.
theorem enter_zero :
    d.enter trail 0 p = if p.hasNul then .fail .nul else .reject (d.barred trail p) := by
  simp only [enter, barred]
  split
  case isTrue  => rfl
  case isFalse => split <;> rfl

theorem enter_zero_succeeds_iff :
    (d.enter trail 0 p).Succeeds ms js ↔ p.hasNul = false ∧ ms = [] ∧ js = [d.barred trail p] := by
  rw [enter_zero]
  cases h : p.hasNul
  case true  => simp [Reading.not_fail_succeeds]
  case false => simp [Reading.reject_succeeds_iff]

theorem memos_enter_zero_error_iff :
    (d.enter trail 0 p).memos = .error e ↔ p.hasNul ∧ e = .nul := by
  rw [enter_zero]
  cases h : p.hasNul
  case true  => simp [Reading.memos_fail_error_iff, eq_comm (a := e)]
  case false => simp [Reading.memos_reject_ne_error]

theorem expand_follow_zero_succeeds_iff :
    (Sheet.expand (d.follow 0 dir trail) s).Succeeds ms js ↔
      (∀ q ∈ Sheet.directives dir s, q.hasNul = false) ∧ ms = Memo.ofText s ∧
        js = (Sheet.directives dir s).map (d.barred trail) := by
  let f (q : Path) : List Memo × List Rejection := ([], [d.barred trail q])
  have hf (q : Path) (g : List Memo × List Rejection) :
      (d.enter trail 0 q).Succeeds g.1 g.2 ↔ q.hasNul = false ∧ f q = g := by
    rw [enter_zero_succeeds_iff, Prod.ext_iff, eq_comm (a := g.1), eq_comm (a := g.2)]
  have hm : ((Sheet.directives dir s).map f).flatMap (·.1) = [] := by simp [f]
  have hj : ((Sheet.directives dir s).map f).flatMap (·.2) =
      (Sheet.directives dir s).map (d.barred trail) := by
    rw [List.flatMap_map, List.map_eq_flatMap]
  simp only [expand_succeeds_iff, hf, List.forall₂_and_left, ← List.forall₂_map_left_iff (f := f),
    List.forall₂_eq_eq_eq]
  constructor
  case mp =>
    intro ⟨gs, ⟨hn, hg⟩, h₁, h₂⟩
    exact ⟨hn, by rw [h₁, ← hg, hm, List.append_nil], by rw [h₂, ← hg, hj]⟩
  case mpr =>
    intro ⟨hn, h₁, h₂⟩
    exact ⟨_, ⟨hn, rfl⟩, by rw [h₁, hm, List.append_nil], by rw [h₂, hj]⟩

theorem memos_expand_follow_zero_error_iff :
    (Sheet.expand (d.follow 0 dir trail) s).memos = .error e ↔
      (∃ q ∈ Sheet.directives dir s, q.hasNul) ∧ e = .nul := by
  simp only [memos_expand_error_iff, enter_zero_succeeds_iff, memos_enter_zero_error_iff]
  constructor
  case mp =>
    intro ⟨before, q, after, hl, _, hn, he⟩
    exact ⟨⟨q, by simp [hl], hn⟩, he⟩
  case mpr =>
    intro ⟨h, he⟩
    have ⟨q, hq⟩ := Option.isSome_iff_exists.mp (List.find?_isSome.mpr h)
    have ⟨hn, before, after, hl, hb⟩ := List.find?_eq_some_iff_append.mp hq
    exact ⟨before, q, after, hl, fun r hr => ⟨_, _, by simpa using hb r hr, rfl, rfl⟩, hn, he⟩

theorem enter_one_cases (trail : List Path) (p : Path) :
    (p.hasNul = false ∧ d.resolve p ∈ trail ∧
      d.enter trail 1 p = .reject ⟨p, trail, .recursive⟩) ∨
    (∃ e, (p.hasNul ∨ d.resolve p ∉ trail) ∧ d.read p = .error e ∧ d.enter trail 1 p = .fail e) ∨
    ∃ s, d.resolve p ∉ trail ∧ d.read p = .ok s ∧
      d.enter trail 1 p = Sheet.expand (d.follow 0 p.parent (trail ++ [d.resolve p])) s := by
  cases hn : p.hasNul
  case true => exact .inr (.inl ⟨.nul, .inl rfl, read_of_hasNul hn, by simp [enter, hn]⟩)
  case false =>
    by_cases ht : d.resolve p ∈ trail
    case pos => exact .inl ⟨rfl, ht, by simp [enter, hn, ht]⟩
    case neg =>
      cases hr : d.read p
      case error e => exact .inr (.inl ⟨e, .inr ht, rfl, by simp [enter, hn, ht, hr]⟩)
      case ok s    => exact .inr (.inr ⟨s, ht, rfl, by simp [enter, hn, ht, hr]⟩)

theorem enter_one_succeeds_iff :
    (d.enter trail 1 p).Succeeds ms js ↔ d.Adds trail p ms js := by
  rcases d.enter_one_cases trail p with
    ⟨hn, ht, he⟩ | ⟨e, ht, hr, he⟩ | ⟨s, ht, hr, he⟩ <;> rw [he]
  · rw [Reading.reject_succeeds_iff]
    constructor
    case mp => exact fun ⟨hm, hj⟩ => hm ▸ hj ▸ .rejected hn ht
    case mpr =>
      intro h
      cases h
      case rejected   => exact ⟨rfl, rfl⟩
      case accepted h => contradiction
  · constructor
    case mp => exact fun h => absurd h Reading.not_fail_succeeds
    case mpr =>
      intro h
      cases h
      case rejected hn ht' => simp [hn, ht'] at ht
      case accepted hr' _  => simp [hr] at hr'
  · rw [expand_follow_zero_succeeds_iff]
    constructor
    case mp => exact fun ⟨hq, hm, hj⟩ => hm ▸ hj ▸ .accepted ht hr hq
    case mpr =>
      intro h
      cases h
      case rejected => contradiction
      case accepted hr' hq =>
        cases hr.symm.trans hr'
        exact ⟨hq, rfl, rfl⟩

theorem memos_enter_one_error_iff :
    (d.enter trail 1 p).memos = .error e ↔ d.Breaks trail p e := by
  rcases d.enter_one_cases trail p with
    ⟨hn, ht, he⟩ | ⟨e', ht, hr, he⟩ | ⟨s, ht, hr, he⟩ <;> rw [he]
  · constructor
    case mp => exact fun h => absurd h Reading.memos_reject_ne_error
    case mpr =>
      intro h
      cases h
      case unreadable h _   => simp [hn, ht] at h
      case unresolvable _ h => contradiction
  · rw [Reading.memos_fail_error_iff]
    constructor
    case mp => exact fun h => h ▸ .unreadable ht hr
    case mpr =>
      intro h
      cases h
      case unreadable hr'       => exact Except.error.inj (hr.symm.trans hr')
      case unresolvable hr' _ _ => simp [hr] at hr'
  · rw [memos_expand_follow_zero_error_iff]
    constructor
    case mp => exact fun ⟨⟨q, hq, hn⟩, h⟩ => h ▸ .unresolvable ht hr hq hn
    case mpr =>
      intro h
      cases h
      case unreadable hr' => simp [hr] at hr'
      case unresolvable hr' hq hn =>
        cases hr.symm.trans hr'
        exact ⟨⟨_, hq, hn⟩, rfl⟩

end Levels

theorem expand_succeeds_iff_yields :
    (Sheet.expand (d.follow maxLevels dir trail) s).Succeeds ms js ↔ d.Yields trail dir s ms js := by
  simp only [maxLevels, expand_succeeds_iff, enter_one_succeeds_iff, Yields]

theorem memos_expand_error_iff_fails :
    (Sheet.expand (d.follow maxLevels dir trail) s).memos = .error e ↔ d.Fails trail dir s e := by
  simp only [maxLevels, memos_expand_error_iff, enter_one_succeeds_iff, memos_enter_one_error_iff,
    Fails]

theorem readText_of_standalone (h : s.Standalone) : d.readText dir s = .own (Sheet.ofText s) := by
  rw [readText, Sheet.expand, h.includes_eq_nil]
  simp [Reading.concat, Reading.append, Reading.own, Except.map]

theorem memos_readText_of_standalone (h : s.Standalone) :
    (d.readText dir s).memos = .ok (Memo.ofText s) := by
  rw [readText_of_standalone h, Reading.memos_own, Memo.ofText]

-- Without a trail nothing leads back, so the includes of the sheet itself are all followed.
theorem Adds.trail_ne_nil (h : d.Adds [] p ms js) : ∀ j ∈ js, j.trail ≠ [] := by
  cases h
  case rejected h => simp at h
  case accepted   => exact List.forall_mem_map.mpr fun q _ => by simp [barred]

theorem Yields.trail_ne_nil (h : d.Yields [] dir s ms js) : ∀ j ∈ js, j.trail ≠ [] := by
  have ⟨gs, hg, hm, hj⟩ := h
  subst hj
  clear h hm
  generalize Sheet.directives dir s = ps at hg
  induction hg
  case nil          => simp
  case cons ha _ hi => exact List.forall_mem_append.mpr ⟨ha.trail_ne_nil, hi⟩

theorem readSheet_readText_iff (d : Disk) :
    (∀ p ms js, (d.readSheet p).memos = .ok ms ∧ (d.readSheet p).rejected = js ↔
      ∃ s, d.read p = .ok s ∧ d.Yields [d.resolve p] p.parent s ms js) ∧
    (∀ p e, (d.readSheet p).memos = .error e ↔
      d.read p = .error e ∨ ∃ s, d.read p = .ok s ∧ d.Fails [d.resolve p] p.parent s e) ∧
    (∀ dir s ms js, (d.readText dir s).memos = .ok ms ∧ (d.readText dir s).rejected = js ↔
      d.Yields [] dir s ms js) ∧
    (∀ dir s e, (d.readText dir s).memos = .error e ↔ d.Fails [] dir s e) ∧
    ∀ dir s ms, (d.readText dir s).memos = .ok ms → ∀ j ∈ (d.readText dir s).rejected, j.trail ≠ [] := by
  refine ⟨?sheet, ?sheetError, ?text, ?textError, ?unrejected⟩
  case sheet =>
    intro p ms js
    cases hr : d.read p
    case error e => simp [readSheet, hr, Reading.memos, Reading.fail, Except.map]
    case ok s    => simpa [readSheet, hr, Reading.Succeeds] using expand_succeeds_iff_yields
  case sheetError =>
    intro p e
    cases hr : d.read p
    case error e => simp [readSheet, hr, Reading.memos_fail_error_iff]
    case ok s    => simpa [readSheet, hr] using memos_expand_error_iff_fails
  case text => exact fun dir s ms js => expand_succeeds_iff_yields
  case textError => exact fun dir s e => memos_expand_error_iff_fails
  case unrejected =>
    intro dir s ms h j hj
    exact (expand_succeeds_iff_yields.mp ⟨h, rfl⟩).trail_ne_nil j hj

-- A sheet that includes itself under another name, and a sheet that includes it in turn.
example :
    let sheet : Path := ⟨['/'], [['r'], ['m']]⟩
    let other : Path := ⟨['/'], [['r'], ['a']]⟩
    let d : Disk := ⟨⟨['/'], [['r']]⟩,
      [(sheet.parts, .file (Text.utf8 "@mr:include ../r/m\n@mr:include a".toList)),
       (other.parts, .file (Text.utf8 "@mr:include m\n@mr:include b".toList))]⟩
    (d.readSheet sheet).rejected.map (fun j => (j.trail, j.reason)) =
      [([sheet], .recursive), ([sheet, other], .recursive), ([sheet, other], .nested)] := by
  decide +kernel

end Disk
end MemoBase
