import MemoBase.Proofs.Query.Condition

namespace MemoBase.Query

open Text

variable {s : Text} {c c' : Condition} {ls ls' : List Link} {g g' : Gap}

theorem Condition.text_stops (c : Condition) {r : Text} : Stops isBlank (c.text ++ r) := by
  rw [Condition.text_append]
  cases c.scope
  case header | data => simp [Scope.text]; decide
  case any =>
    have hk := Node.isKeyChar_of_isKey c.isKey
    cases h : c.key
    case nil => exact absurd h (Node.isKey_ne_nil c.isKey)
    case cons d k =>
      rw [h] at hk
      exact Stops.cons.mpr <| Node.isBlank_of_isKeyChar <| hk d List.mem_cons_self

theorem Condition.text_ne_nil (c : Condition) : c.text ≠ [] := by
  simp [Condition.text, Node.isKey_ne_nil c.isKey]

-- The text behind the first condition.
def tail (ls : List Link) (g : Gap) : Text :=
  ls.flatMap Link.text ++ g.text

theorem tail_cons (l : Link) : tail (l :: ls) g =
    l.before.text ++ ',' :: (l.after.text ++ (l.condition.text ++ tail ls g)) := by
  simp [tail, Link.text]

theorem trimLeft_tail_nil : trimLeft (tail [] g) = [] :=
  List.dropWhile_eq_nil_iff.mpr g.blank

theorem comma_stops {r : Text} : Stops isBlank (',' :: r) :=
  Stops.cons.mpr (by decide)

theorem trimLeft_tail_cons (l : Link) : trimLeft (tail (l :: ls) g) =
    ',' :: (l.after.text ++ (l.condition.text ++ tail ls g)) := by
  rw [tail_cons, Gap.trimLeft_append_of_stops _ comma_stops]

theorem tail_ends (ls : List Link) (g : Gap) : Ends (tail ls g) := by
  cases ls
  case nil  => simp [Ends, trimLeft_tail_nil]
  case cons => simp [Ends, trimLeft_tail_cons]

-- What follows a condition decides about the rest.
theorem conditions_eq_ok_iff {fs : List NodeFilter} :
    conditions s = .ok fs ↔
      ∃ f r, condition s = .ok (f, r) ∧
        (trimLeft r = [] ∧ fs = [f] ∨
          ∃ t fs', trimLeft r = ',' :: t ∧ conditions (trimLeft t) = .ok fs' ∧ fs = f :: fs') := by
  rw [conditions]
  split
  case h_1 h => simp [h]
  case h_2 f r h =>
    split
    case h_1 h' =>
      simp [h, h', eq_comm (a := fs)]
    case h_2 t h' =>
      cases ht : conditions (trimLeft t)
      case error => simp [h, h', ht, Except.map]
      case ok    => simp [h, h', ht, Except.map, eq_comm (a := fs)]
    case h_3 c t hc h' =>
      have : c ≠ ',' := fun he => hc he
      simp [h, h', this]

theorem conditions_append (hc : c.index.IsShort) (hs : ∀ l ∈ ls, l.condition.index.IsShort) :
    conditions (c.text ++ tail ls g) = .ok (c.filter :: ls.map (·.condition.filter)) := by
  have ⟨r, hr, ht⟩ := Condition.condition_append hc (tail_ends ls g)
  rw [conditions_eq_ok_iff]
  refine ⟨c.filter, r, hr, ?_⟩
  induction ls generalizing c r
  case nil => exact .inl ⟨ht.trans trimLeft_tail_nil, rfl⟩
  case cons l ls ih =>
    have hl := hs l List.mem_cons_self
    have ⟨r', hr', ht'⟩ := Condition.condition_append hl (tail_ends ls g)
    have := ih hl (fun l hl => hs l (List.mem_cons_of_mem _ hl)) r' hr' ht'
    rw [trimLeft_tail_cons] at ht
    refine .inr ⟨_, _, ht, ?_, rfl⟩
    rw [Gap.trimLeft_append_of_stops _ l.condition.text_stops, conditions_eq_ok_iff]
    exact ⟨_, _, hr', this⟩

theorem exists_of_conditions {fs : List NodeFilter} (h : conditions s = .ok fs) :
    ∃ (c : Condition) (ls : List Link) (g : Gap), c.index.IsShort ∧
      (∀ l ∈ ls, l.condition.index.IsShort) ∧
      c.filter :: ls.map (·.condition.filter) = fs ∧ s = c.text ++ tail ls g := by
  induction fs generalizing s
  case nil =>
    have := conditions_eq_ok_iff.mp h
    simp at this
  case cons f fs ih =>
    have ⟨f', r, hc, h⟩ := conditions_eq_ok_iff.mp h
    have ⟨c, g, hi, hf, hs⟩ := Condition.exists_of_condition hc
    have ⟨before, ht⟩ := Gap.exists_trimLeft (g.text ++ r)
    rw [g.trimLeft_append] at ht
    rcases h with ⟨hr, he⟩ | ⟨t, fs', hr, h, he⟩ <;> cases he
    case inl =>
      refine ⟨c, [], before, hi, by simp, by simp [hf], ?_⟩
      rw [hs, ht, hr, List.append_nil, tail, List.flatMap_nil, List.nil_append]
    case inr =>
      have ⟨after, hu⟩ := Gap.exists_trimLeft t
      have ⟨c', ls, g', hi', hl, hfs, hc'⟩ := ih h
      refine ⟨c, ⟨before, after, c'⟩ :: ls, g', hi, ?_, by simp [hf, hfs], ?_⟩
      · intro l hm
        cases hm
        case head    => exact hi'
        case tail hm => exact hl l hm
      · rw [hs, ht, hr, hu, hc', tail_cons]

theorem tail_inj (h : tail ls g = tail ls' g') : ls = ls' ∧ g = g' := by
  induction ls generalizing ls' <;> cases ls'
  case nil.nil =>
    cases g
    cases g'
    exact ⟨rfl, by simpa [tail] using h⟩
  case nil.cons l' ls' =>
    have := congrArg trimLeft h
    simp [trimLeft_tail_nil, trimLeft_tail_cons] at this
  case cons.nil l ls _ =>
    have := congrArg trimLeft h
    simp [trimLeft_tail_nil, trimLeft_tail_cons] at this
  case cons.cons l ls ih l' ls' =>
    rw [tail_cons, tail_cons] at h
    obtain ⟨before, h⟩ := Gap.append_inj h comma_stops comma_stops
    obtain ⟨after, h⟩ := Gap.append_inj (List.cons.inj h).right l.condition.text_stops
      l'.condition.text_stops
    obtain ⟨condition, h⟩ := Condition.append_inj h (tail_ends ls g) (tail_ends ls' g')
    obtain ⟨hls, hg⟩ := ih h
    refine ⟨?_, hg⟩
    cases l
    cases l'
    simp_all

namespace Derivation

variable (d : Derivation)

theorem text_eq : d.text = d.before.text ++ (d.first.text ++ tail d.more d.after) := by
  simp [text, tail]

theorem trimLeft_text : d.text.trimLeft = d.first.text ++ tail d.more d.after := by
  rw [text_eq, Gap.trimLeft_append_of_stops _ d.first.text_stops]

variable {d}

theorem isShort_iff :
    d.IsShort ↔ d.first.index.IsShort ∧ ∀ l ∈ d.more, l.condition.index.IsShort := by
  simp [IsShort, conditions]

-- The text of a derivation determines all of it.
theorem text_inj {d' : Derivation} (h : d.text = d'.text) : d = d' := by
  rw [text_eq, text_eq] at h
  have ⟨before, h⟩ := Gap.append_inj h d.first.text_stops d'.first.text_stops
  have ⟨first, h⟩ := Condition.append_inj h (tail_ends _ _) (tail_ends _ _)
  have ⟨more, after⟩ := tail_inj h
  cases d
  cases d'
  simp_all

end Derivation

theorem read_text {d : Derivation} (h : d.IsShort) : read d.text = .ok d.filter.conditions := by
  have ⟨hf, hm⟩ := Derivation.isShort_iff.mp h
  rw [read, d.trimLeft_text, if_neg, conditions_append hf hm]
  · simp [Derivation.filter, Derivation.conditions]
  · simp [d.first.text_ne_nil]

theorem exists_of_read {fs : List NodeFilter} (h : read s = .ok fs) :
    ∃ d : Derivation, d.IsShort ∧ d.text = s ∧ d.filter = ⟨fs⟩ := by
  have ⟨before, hs⟩ := Gap.exists_trimLeft s
  rw [read] at h
  split at h
  case isTrue => contradiction
  case isFalse =>
    have ⟨c, ls, g, hc, hl, hf, ht⟩ := exists_of_conditions h
    refine ⟨⟨before, c, ls, g⟩, Derivation.isShort_iff.mpr ⟨hc, hl⟩, ?_, ?_⟩
    · rw [Derivation.text_eq, ← ht, ← hs]
    · simp [Derivation.filter, Derivation.conditions, ← hf]

end MemoBase.Query

namespace MemoBase

open Query

-- The accepted queries are the derivable ones, apart from those with too long a number in an index.
-- What a query means is read off its only derivation.
theorem MemoFilter.ofQuery_eq_ok_iff (query : Text) :
    (∀ f, MemoFilter.ofQuery query = .ok f ↔
      ∃ d : Derivation, d.IsShort ∧ d.text = query ∧ d.filter = f) ∧
    ∀ d d' : Derivation, d.text = query → d'.text = query → d = d' := by
  refine ⟨fun f => ⟨fun h => ?sound, fun ⟨d, short, ht, hf⟩ => ?complete⟩, fun d d' h h' => ?unique⟩
  case sound =>
    rw [ofQuery] at h
    split at h <;> cases h
    case h_1 h => exact exists_of_read h
  case complete => rw [ofQuery, ← ht, read_text short, ← hf]
  case unique   => exact Derivation.text_inj (h.trans h'.symm)

theorem MemoFilter.ofQuery_book_years :
    MemoFilter.ofQuery "@book, year[0: 2]<= '5'".toList = .ok
      ⟨[{ scope := .header, key := .equals "book".toList },
        { key := .equals "year".toList, index := .range 0 2,
          value := .compare .le ((Single.ofInt 5).convert .double) }]⟩ := by
  let gap : Gap := ⟨[' '], by simp; decide⟩
  let none : Gap := ⟨[], nofun⟩
  let zero : Bound := ⟨none, ['0'], none, nofun, by simp; decide⟩
  let two : Bound := ⟨gap, ['2'], none, nofun, by simp; decide⟩
  let test : Test :=
    ⟨none, .compare .le, gap, .quoted ['5'] (by simp), _, .compare (x := .ofInt 5)
      (by decide +kernel)⟩
  let year : Condition := ⟨.any, "year".toList, .range zero two (by decide), test, by decide⟩
  let book : Condition := ⟨.header, "book".toList, .none, .none, by decide⟩
  let d : Derivation := ⟨none, book, [⟨none, gap, year⟩], none⟩
  refine (MemoFilter.ofQuery_eq_ok_iff _).left _ |>.mpr ⟨d, ?short, by decide, rfl⟩
  case short =>
    rw [Derivation.isShort_iff]
    simp [d, book, year, zero, two, Index.IsShort, Bound.IsShort, Integer.maxDigits]

end MemoBase
