import Mathlib.Data.List.DropRight
import MemoBase.Text.Blank

namespace MemoBase.Text

variable {p : Char → Bool} {s t w r : Text} {c : Char}

-- The text does not go on with a character that has the property.
def Stops (p : Char → Bool) (s : Text) : Prop :=
  ∀ c ∈ s.head?, p c = false

namespace Stops

@[simp]
theorem nil : Stops p [] := by
  simp [Stops]

@[simp]
theorem cons : Stops p (c :: s) ↔ p c = false := by
  simp [Stops]

instance (p : Char → Bool) : (s : Text) → Decidable (Stops p s)
  | []     => isTrue nil
  | c :: _ => decidable_of_iff (p c = false) cons.symm

theorem append (hs : Stops p s) (ht : Stops p t) : Stops p (s ++ t) := by
  cases s
  case nil  => exact ht
  case cons => simpa using hs

theorem dropWhile (p : Char → Bool) (s : Text) : Stops p (s.dropWhile p) := by
  intro c hc
  have := List.head?_dropWhile_not p s
  simp_all

end Stops

theorem takeWhile_append (hw : ∀ c ∈ w, p c) (hr : Stops p r) : (w ++ r).takeWhile p = w := by
  rw [List.takeWhile_append_of_pos hw]
  cases r
  case nil  => simp
  case cons => simp [Stops.cons.mp hr]

theorem dropWhile_append (hw : ∀ c ∈ w, p c) (hr : Stops p r) : (w ++ r).dropWhile p = r := by
  rw [List.dropWhile_append_of_pos hw]
  cases r
  case nil  => simp
  case cons => simp [Stops.cons.mp hr]

theorem dropWhile_eq_self (hr : Stops p r) : r.dropWhile p = r :=
  dropWhile_append (w := []) nofun hr

theorem cut_append (hw : ∀ c ∈ w, p c) (hr : Stops p r) : (w ++ r).cut p = (w, r) := by
  rw [cut, takeWhile_append hw hr, dropWhile_append hw hr]

theorem cut_eq_iff : s.cut p = (w, r) ↔ s = w ++ r ∧ (∀ c ∈ w, p c) ∧ Stops p r where
  mp h := by
    have ⟨hw, hr⟩ := Prod.mk.inj h
    rw [← hw, ← hr, List.takeWhile_append_dropWhile]
    exact ⟨rfl, fun _ => List.mem_takeWhile_imp, .dropWhile p s⟩
  mpr := fun ⟨hs, hw, hr⟩ => hs ▸ cut_append hw hr

-- There is one place only where such a part can end.
theorem append_inj_of_stops {w' r' : Text} (hw : ∀ c ∈ w, p c) (hr : Stops p r)
    (hw' : ∀ c ∈ w', p c) (hr' : Stops p r') (h : w ++ r = w' ++ r') : w = w' ∧ r = r' := by
  have := cut_append hw hr
  rw [h, cut_append hw' hr'] at this
  simp_all

section Longest

-- A beginning of the text that has the property and is as long as any other that has it.
structure Longest (q : Text → Prop) (w s : Text) : Prop where
  begins  : w <+: s
  holds   : q w
  maximal : ∀ u, u <+: s → q u → u.length ≤ w.length

-- The property is one of the characters, so it can only end where the text goes on with another one.
theorem longest_append_iff {q : Text → Prop} (hq : ∀ u, q u → ∀ c ∈ u, p c)
    (hc : ∀ u c, q u → p c → q (u ++ [c])) : Longest q w (w ++ r) ↔ q w ∧ Stops p r where
  mp h := by
    refine ⟨h.holds, ?_⟩
    cases r
    case nil => exact .nil
    case cons c r =>
      rw [Stops.cons]
      cases hp : p c
      case false => rfl
      case true  =>
        have := h.maximal (w ++ [c]) (by simp) (hc w c h.holds hp)
        simp only [List.length_append, List.length_singleton] at this
        omega
  mpr := by
    intro ⟨hw, hr⟩
    refine ⟨List.prefix_append w r, hw, fun u hu h => ?_⟩
    by_contra hl
    have ⟨t, ht⟩ := List.prefix_of_prefix_length_le (List.prefix_append w r) hu (by omega)
    subst ht
    cases t
    case nil => simp at hl
    case cons c t =>
      have hp : p c := hq (w ++ c :: t) h c (by simp)
      have ⟨_, hr'⟩ := (List.prefix_append_right_inj w).mp hu
      rw [← hr', List.cons_append, Stops.cons] at hr
      simp [hp] at hr

end Longest

section Trim

theorem dropTrailing_eq_rdropWhile : dropTrailing p s = s.rdropWhile p :=
  rfl

theorem dropTrailing_eq_self_iff : dropTrailing p s = s ↔ ∀ c ∈ s.getLast?, p c = false := by
  rw [dropTrailing_eq_rdropWhile, List.rdropWhile_eq_self_iff]
  cases s using List.reverseRecOn <;> simp

theorem dropTrailing_append_of_getLast? (h : ∀ c ∈ s.getLast?, p c = false) (hs : s ≠ []) :
    dropTrailing p (t ++ s) = t ++ s := by
  rw [dropTrailing_eq_self_iff]
  intro c hc
  rw [List.getLast?_append_of_ne_nil _ hs] at hc
  exact h c hc

theorem dropTrailing_cons (h : p c = false) : dropTrailing p (c :: s) = c :: dropTrailing p s := by
  rw [dropTrailing, List.reverse_cons, List.dropWhile_append]
  split
  case isTrue he  => simp [dropTrailing, List.isEmpty_iff.mp he, h]
  case isFalse he => simp [dropTrailing]

theorem trimLeft_eq_self_iff : s.trimLeft = s ↔ Stops isBlank s := by
  cases s
  case nil => simp [trimLeft]
  case cons c s =>
    cases h : isBlank c
    case false => simp [trimLeft, h]
    case true  =>
      simp only [trimLeft, h, List.dropWhile_cons_of_pos, Stops.cons, Bool.true_eq_false, iff_false]
      intro he
      have := (List.dropWhile_suffix isBlank (l := s)).length_le
      simp only [he, List.length_cons] at this
      omega

theorem trimRight_eq_self_iff : s.trimRight = s ↔ ∀ c ∈ s.getLast?, isBlank c = false :=
  dropTrailing_eq_self_iff

-- Trimming never puts anything back, so a text that it leaves alone is left alone at both ends.
theorem trim_eq_self_iff :
    s.trim = s ↔ Stops isBlank s ∧ ∀ c ∈ s.getLast?, isBlank c = false := by
  rw [← trimLeft_eq_self_iff, ← trimRight_eq_self_iff]
  constructor
  case mpr => exact fun ⟨hl, hr⟩ => by rw [trim, hl, hr]
  case mp  =>
    intro h
    have hr := (List.rdropWhile_prefix isBlank (l := s.trimLeft)).length_le
    have hl : s.trimLeft <:+ s := List.dropWhile_suffix isBlank
    rw [← dropTrailing_eq_rdropWhile, ← trimRight, ← trim, h] at hr
    have he : s.trimLeft = s := hl.eq_of_length (Nat.le_antisymm hl.length_le hr)
    exact ⟨he, by rwa [trim, he] at h⟩

theorem trim_cons (h : isBlank c = false) : trim (c :: s) = c :: s.trimRight := by
  rw [trim, trimLeft_eq_self_iff.mpr (Stops.cons.mpr h), trimRight, dropTrailing_cons h, trimRight]

theorem length_trim_le (s : Text) : s.trim.length ≤ s.length := by
  have hr : s.trim <+: s.trimLeft := List.rdropWhile_prefix isBlank _
  have hl : s.trimLeft <:+ s := List.dropWhile_suffix isBlank
  exact hr.length_le.trans hl.length_le

theorem mem_of_mem_trim (h : c ∈ s.trim) : c ∈ s := by
  have hr : s.trim <+: s.trimLeft := List.rdropWhile_prefix isBlank _
  have hl : s.trimLeft <:+ s := List.dropWhile_suffix isBlank
  exact hl.mem (hr.mem h)

theorem trim_trim (s : Text) : s.trim.trim = s.trim := by
  refine trim_eq_self_iff.mpr ⟨?left, ?right⟩
  case left =>
    have hs : Stops isBlank s.trimLeft := .dropWhile isBlank s
    rw [trim]
    cases hl : s.trimLeft
    case nil  => exact .nil
    case cons =>
      have hc := Stops.cons.mp (hl ▸ hs)
      rw [trimRight, dropTrailing_cons hc]
      exact Stops.cons.mpr hc
  case right => exact trimRight_eq_self_iff.mp (List.rdropWhile_idempotent isBlank _)

-- A text that ends with no blank leaves no blanks to any part at its end.
theorem trimRight_of_suffix (hs : s.trimRight = s) (h : t <:+ s) : t.trimRight = t := by
  rw [trimRight_eq_self_iff] at hs ⊢
  intro c hc
  obtain ⟨r, rfl⟩ := h
  refine hs c ?_
  have hn : t ≠ [] := List.ne_nil_of_mem (List.mem_of_mem_getLast? hc)
  rwa [List.getLast?_append_of_ne_nil r hn]

theorem trimLeft_eq_nil_iff (hs : s.trimRight = s) : s.trimLeft = [] ↔ s = [] where
  mp h := by
    by_contra hn
    have hb : ∀ c ∈ s, isBlank c := List.dropWhile_eq_nil_iff.mp h
    have hl := trimRight_eq_self_iff.mp hs (s.getLast hn) (List.getLast?_eq_some_getLast hn)
    simp [hb _ (List.getLast_mem hn)] at hl
  mpr h := by
    subst h
    rfl

theorem trimLeft_suffix (s : Text) : s.trimLeft <:+ s :=
  List.dropWhile_suffix isBlank

-- A text of blanks leaves the trimming to what follows it.
theorem trimLeft_append (s t : Text) :
    (s ++ t).trimLeft = if s.trimLeft = [] then t.trimLeft else s.trimLeft ++ t := by
  rw [trimLeft, List.dropWhile_append]
  exact if_congr List.isEmpty_iff rfl rfl

-- Blanks at the ends make no difference.
theorem trim_append_left (hw : ∀ c ∈ w, isBlank c) : (w ++ s).trim = s.trim := by
  rw [trim, trimLeft, List.dropWhile_append_of_pos hw, ← trimLeft, ← trim]

theorem trimRight_append (hw : ∀ c ∈ w, isBlank c) : (s ++ w).trimRight = s.trimRight := by
  have hw : ∀ c ∈ w.reverse, isBlank c := by simpa using hw
  rw [trimRight, trimRight, dropTrailing, List.reverse_append, List.dropWhile_append_of_pos hw,
    ← dropTrailing]

theorem trim_append_right (hw : ∀ c ∈ w, isBlank c) : (s ++ w).trim = s.trim := by
  rw [trim, trim, trimLeft, trimLeft, List.dropWhile_append]
  split
  case isFalse => exact trimRight_append hw
  case isTrue hs =>
    have hd : w.dropWhile isBlank = [] := List.dropWhile_eq_nil_iff.mpr hw
    rw [hd, List.isEmpty_iff.mp hs]

theorem trim_append_append (hs : s.trim = s) (hn : s ≠ []) (ht : t.trim = t) (hm : t ≠ []) (w : Text) :
    (s ++ (w ++ t)).trim = s ++ (w ++ t) := by
  refine trim_eq_self_iff.mpr ⟨?_, ?_⟩
  · cases s
    case nil  => contradiction
    case cons => exact (trim_eq_self_iff.mp hs).left
  · rw [← List.append_assoc, List.getLast?_append_of_ne_nil _ hm]
    exact (trim_eq_self_iff.mp ht).right

theorem trim_of_no_blank (h : ∀ c ∈ s, isBlank c = false) : s.trim = s :=
  trim_eq_self_iff.mpr
    ⟨fun c hc => h c (List.mem_of_mem_head? hc), fun c hc => h c (List.mem_of_mem_getLast? hc)⟩

end Trim
end MemoBase.Text
