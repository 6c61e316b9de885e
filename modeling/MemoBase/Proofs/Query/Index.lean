import MemoBase.Proofs.Memo.Key
import MemoBase.Proofs.Query.Grammar
import MemoBase.Proofs.Text.Classes

namespace MemoBase

open Text

namespace Query

variable {p : Char → Bool} {r r' s w : Text}

section Gaps

-- Behind a condition there are only gaps and a comma.
def Ends (s : Text) : Prop :=
  ∀ c ∈ s.trimLeft.head?, c = ','

theorem Ends.stops (h : Ends s) (hb : ∀ c, isBlank c → p c = false) (hc : p ',' = false) :
    Stops p s := by
  cases s
  case nil => simp
  case cons d s =>
    rw [Stops.cons]
    cases hd : isBlank d
    case true  => exact hb d hd
    case false =>
      have := h d (by simp [trimLeft, hd])
      rwa [this]

namespace Gap

variable (g : Gap)

theorem stops (hb : ∀ c, isBlank c → p c = false) (hr : Stops p r) : Stops p (g.text ++ r) :=
  .append (fun c hc => hb c <| g.blank c <| List.mem_of_mem_head? hc) hr

theorem trimLeft_append : (g.text ++ r).trimLeft = r.trimLeft :=
  List.dropWhile_append_of_pos g.blank

theorem trimLeft_append_of_stops (hr : Stops isBlank r) : (g.text ++ r).trimLeft = r :=
  dropWhile_append g.blank hr

variable {g}

theorem append_inj {g' : Gap} (h : g.text ++ r = g'.text ++ r') (hr : Stops isBlank r)
    (hr' : Stops isBlank r') : g = g' ∧ r = r' := by
  have ⟨hg, hr⟩ := append_inj_of_stops g.blank hr g'.blank hr' h
  cases g
  cases g'
  simp_all

theorem exists_trimLeft (s : Text) : ∃ g : Gap, s = g.text ++ s.trimLeft :=
  ⟨⟨s.takeWhile isBlank, fun _ => List.mem_takeWhile_imp⟩, List.takeWhile_append_dropWhile.symm⟩

end Gap
end Gaps

section Indices

namespace Bound

variable {b b' : Bound} {c c' : Char}

theorem text_append : b.text ++ r = b.before.text ++ (b.digits ++ (b.after.text ++ r)) := by
  simp [text]

theorem digits_stops (b : Bound) : Stops isBlank (b.digits ++ r) := by
  intro c hc
  rw [List.head?_append_of_ne_nil _ b.ne_nil] at hc
  exact isBlank_of_isDigit (b.all_digits c (List.mem_of_mem_head? hc))

-- The characters behind a numeral.
def Closes (c : Char) : Prop :=
  isBlank c = false ∧ isDigit c = false

theorem closes_bracket : Closes ']' :=
  ⟨by decide, by decide⟩

theorem closes_colon : Closes ':' :=
  ⟨by decide, by decide⟩

theorem after_stops (b : Bound) (hc : Closes c) : Stops isDigit (b.after.text ++ c :: r) :=
  b.after.stops (fun _ => isDigit_of_isBlank) (Stops.cons.mpr hc.right)

theorem numeral?_append (hc : Closes c) : numeral? (b.text ++ c :: r) = some (b.digits, c :: r) := by
  have hr : Stops isBlank (c :: r) := Stops.cons.mpr hc.left
  rw [text_append, numeral?, Gap.trimLeft_append_of_stops _ b.digits_stops,
    cut_append b.all_digits (b.after_stops hc)]
  simp [b.ne_nil, Gap.trimLeft_append_of_stops _ hr]

theorem exists_of_numeral? {ds : Text} (h : numeral? s = some (ds, r)) :
    ∃ b : Bound, b.digits = ds ∧ s = b.text ++ r := by
  have ⟨before, hs⟩ := Gap.exists_trimLeft s
  have ⟨after, ht⟩ := Gap.exists_trimLeft (s.trimLeft.dropWhile isDigit)
  by_cases hn : s.trimLeft.takeWhile isDigit = [] <;> simp [numeral?, cut, hn] at h
  obtain ⟨hd, hr⟩ := h
  rw [hr] at ht
  refine ⟨⟨before, _, after, hn, fun _ => List.mem_takeWhile_imp⟩, hd, ?_⟩
  rw [text_append, ← ht, List.takeWhile_append_dropWhile, ← hs]

theorem append_inj (hc : Closes c) (hc' : Closes c') (h : b.text ++ c :: r = b'.text ++ c' :: r') :
    b = b' ∧ c = c' ∧ r = r' := by
  rw [text_append, text_append] at h
  have ⟨before, h⟩ := Gap.append_inj h b.digits_stops b'.digits_stops
  have ⟨digits, h⟩ := append_inj_of_stops b.all_digits (b.after_stops hc) b'.all_digits
    (b'.after_stops hc') h
  have ⟨after, h⟩ := Gap.append_inj h (Stops.cons.mpr hc.left) (Stops.cons.mpr hc'.left)
  cases b
  cases b'
  simp_all

end Bound

section Numbers

variable {b b' : Bound} {ds : Text} {n : Nat}

theorem number_eq_ok_iff :
    number ds = .ok n ↔ ds.length ≤ Integer.maxDigits ∧ natOfDigits ds = n := by
  simp only [number]
  split <;> simp <;> omega

theorem bounds_single (h : b.IsShort) : bounds (b.digits, none) = .ok (.single b.value) := by
  have hb := number_eq_ok_iff (n := b.value) |>.mpr ⟨h, rfl⟩
  simp [bounds, hb, Bound.value, bind, Except.bind, pure, Except.pure]

theorem bounds_range (h : b.IsShort) (h' : b'.IsShort) (le : b.value ≤ b'.value) :
    bounds (b.digits, some b'.digits) = .ok (.range b.value b'.value) := by
  have hb := number_eq_ok_iff.mpr ⟨h, rfl⟩
  have hb' := number_eq_ok_iff.mpr ⟨h', rfl⟩
  have : ¬natOfDigits b'.digits < natOfDigits b.digits := Nat.not_lt.mpr le
  simp [bounds, hb, hb', Bound.value, bind, Except.bind, pure, Except.pure, this]

theorem of_bounds_single {f : IndexFilter} (h : bounds (b.digits, none) = .ok f) :
    b.IsShort ∧ f = .single b.value := by
  cases hb : number b.digits <;> simp [bounds, hb, bind, Except.bind, pure, Except.pure] at h
  case ok =>
    have ⟨hs, hn⟩ := number_eq_ok_iff.mp hb
    exact ⟨hs, by rw [← h, Bound.value, hn]⟩

theorem of_bounds_range {f : IndexFilter} (h : bounds (b.digits, some b'.digits) = .ok f) :
    b.IsShort ∧ b'.IsShort ∧ b.value ≤ b'.value ∧ f = .range b.value b'.value := by
  cases hb : number b.digits <;> simp [bounds, hb, bind, Except.bind] at h
  case ok =>
    cases hb' : number b'.digits <;> simp [hb', throw, throwThe, MonadExceptOf.throw] at h
    case ok =>
      have ⟨hs, hn⟩ := number_eq_ok_iff.mp hb
      have ⟨hs', hn'⟩ := number_eq_ok_iff.mp hb'
      subst hn hn'
      split at h <;> cases h
      case isFalse le => exact ⟨hs, hs', Nat.not_lt.mp le, rfl⟩

theorem exists_of_bounds? {ds : Text × Option Text} (h : bounds? s = some (ds, r)) :
    (∃ b : Bound, ds = (b.digits, none) ∧ s = b.text ++ ']' :: r) ∨
    ∃ b b' : Bound, ds = (b.digits, some b'.digits) ∧
      s = b.text ++ ':' :: (b'.text ++ ']' :: r) := by
  simp only [bounds?, Option.bind_eq_bind, Option.bind_eq_some_iff] at h
  have ⟨⟨first, t⟩, hf, h⟩ := h
  have ⟨b, hd, hs⟩ := Bound.exists_of_numeral? hf
  subst hd
  split at h
  case h_1 he =>
    cases he
    cases h
    exact .inl ⟨b, rfl, hs⟩
  case h_2 he =>
    cases he
    simp only [Option.bind_eq_some_iff] at h
    have ⟨⟨last, t⟩, hl, h⟩ := h
    have ⟨b', hd', ht⟩ := Bound.exists_of_numeral? hl
    subst hd'
    split at h
    case h_1 he =>
      cases he
      cases h
      exact .inr ⟨b, b', rfl, ht ▸ hs⟩
    case h_2 => contradiction
  case h_3 => contradiction

end Numbers

namespace Index

variable {i i' : Index}

theorem text_single_append (b : Bound) : (single b).text ++ r = '[' :: (b.text ++ ']' :: r) := by
  simp [text]

theorem text_range_append (b b' : Bound) (le : b.value ≤ b'.value) :
    (range b b' le).text ++ r = '[' :: (b.text ++ ':' :: (b'.text ++ ']' :: r)) := by
  simp [text]

theorem index_append (hi : i.IsShort) (hr : Stops (· == '[') r) :
    index (i.text ++ r) = .ok (i.filter, r) := by
  cases i
  case none =>
    cases r
    case nil  => rfl
    case cons =>
      rw [Stops.cons] at hr
      simp_all [text, index, filter]
  case single b =>
    have hb := Bound.numeral?_append (b := b) (r := r) Bound.closes_bracket
    rw [text_single_append]
    simp [index, bounds?, hb, bounds_single hi, filter]
  case range b b' le =>
    have hb := Bound.numeral?_append (b := b) (r := b'.text ++ ']' :: r) Bound.closes_colon
    have hb' := Bound.numeral?_append (b := b') (r := r) Bound.closes_bracket
    rw [text_range_append]
    simp [index, bounds?, hb, hb', bounds_range hi.left hi.right le, filter]

theorem exists_of_index {f : IndexFilter} (h : index s = .ok (f, r)) :
    ∃ i : Index, i.IsShort ∧ i.filter = f ∧ s = i.text ++ r := by
  simp only [index] at h
  split at h
  case h_2 =>
    cases h
    exact ⟨none, trivial, rfl, rfl⟩
  case h_1 t =>
    split at h
    case h_1 => contradiction
    case h_2 ds t' hb =>
      split at h
      case h_2 => contradiction
      case h_1 hf =>
        cases h
        rcases exists_of_bounds? hb with ⟨b, rfl, ht⟩ | ⟨b, b', rfl, ht⟩
        case inl =>
          have ⟨hs, hf⟩ := of_bounds_single hf
          exact ⟨single b, hs, hf.symm, by rw [text_single_append, ht]⟩
        case inr =>
          have ⟨hs, hs', le, hf⟩ := of_bounds_range hf
          exact ⟨range b b' le, ⟨hs, hs'⟩, hf.symm, by rw [text_range_append, ht]⟩

theorem append_inj (h : i.text ++ r = i'.text ++ r') (hr : Stops (· == '[') r)
    (hr' : Stops (· == '[') r') : i = i' ∧ r = r' := by
  cases i <;> cases i'
  case none.none => exact ⟨rfl, h⟩
  case none.single | none.range =>
    replace h : r = _ := h
    simp [h, text] at hr
  case single.none | range.none =>
    replace h : _ = r' := h
    simp [← h, text] at hr'
  all_goals
    simp only [text_single_append, text_range_append, List.cons.injEq, true_and] at h
  case single.single =>
    have ⟨hb, _, hr⟩ := Bound.append_inj Bound.closes_bracket Bound.closes_bracket h
    exact ⟨hb ▸ rfl, hr⟩
  case range.range =>
    have ⟨hb, _, h⟩ := Bound.append_inj Bound.closes_colon Bound.closes_colon h
    have ⟨hb', _, hr⟩ := Bound.append_inj Bound.closes_bracket Bound.closes_bracket h
    exact ⟨by simp [hb, hb'], hr⟩
  case single.range =>
    have := Bound.append_inj Bound.closes_bracket Bound.closes_colon h
    simp at this
  case range.single =>
    have := Bound.append_inj Bound.closes_colon Bound.closes_bracket h
    simp at this

end Index
end Indices
end Query
end MemoBase
