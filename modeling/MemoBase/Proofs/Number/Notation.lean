import Mathlib.Data.Bool.AllAny
import MemoBase.Proofs.Number.Numeral
import MemoBase.Proofs.Text.Classes

namespace MemoBase

open Text

-- The digits in front of an exponent. The point may stand before, between or behind them.
inductive Numeral.Significand : Text → Rat → Prop
  | whole {ds : Text} : (∀ c ∈ ds, isDigit c) → ds ≠ [] → Significand ds (natOfDigits ds)
  | point {ds fs : Text} : (∀ c ∈ ds, isDigit c) → (∀ c ∈ fs, isDigit c) → ds ≠ [] ∨ fs ≠ [] →
    Significand (ds ++ '.' :: fs) (natOfDigits ds + natOfDigits fs / 10 ^ fs.length)

inductive Numeral.Sign : Text → Bool → Prop
  | none  : Sign [] false
  | plus  : Sign ['+'] false
  | minus : Sign ['-'] true

inductive Numeral.Exponent : Text → Int → Prop
  | none : Exponent [] 0
  | written {c : Char} {w ds : Text} {neg : Bool} : c = 'e' ∨ c = 'E' → Sign w neg →
    (∀ c ∈ ds, isDigit c) → ds ≠ [] →
    Exponent (c :: (w ++ ds)) (if neg then -natOfDigits ds else natOfDigits ds)

-- The text is a numeral of the exact number.
inductive Text.Writes : Text → Exact → Prop
  | infinite {w s : Text} {neg : Bool} : Numeral.Sign w neg →
    s.map Char.toLower = "inf".toList ∨ s.map Char.toLower = "infinity".toList →
    Writes (w ++ s) (.infinite neg)
  | finite {w s t : Text} {neg : Bool} {q : Rat} {e : Int} : Numeral.Sign w neg →
    Numeral.Significand s q → Numeral.Exponent t e → Writes (w ++ (s ++ t)) (.signed neg (q * 10 ^ e))

variable {c : Char} {s t w ds fs : Text} {neg : Bool} {e : Int} {q : Rat} {a b : Exact} {x : Numeral}

section Digits

theorem Text.natOfDigits_append (ht : ∀ c ∈ t, isDigit c) :
    natOfDigits (s ++ t) = natOfDigits s * 10 ^ t.length + natOfDigits t := by
  have hl : (t.filterMap digitValue?).length = t.length := by
    rw [List.length_filterMap_eq_countP, List.countP_eq_length]
    exact ht
  have hf (ds : List Nat) : ∀ n, ds.foldl (fun n d => 10 * n + d) n =
      n * 10 ^ ds.length + ds.foldl (fun n d => 10 * n + d) 0 := by
    induction ds
    case nil => simp
    case cons d ds hi =>
      intro n
      rw [List.foldl_cons, List.foldl_cons, hi, hi (10 * 0 + d), List.length_cons, Nat.pow_succ]
      ring
  rw [natOfDigits, List.filterMap_append, List.foldl_append, hf, hl, ← natOfDigits, ← natOfDigits]

end Digits

namespace Numeral

def denoted? : Numeral → Option Exact
  | nan                   => none
  | infinite neg          => some (.infinite neg)
  | finite neg digits exp => some (.signed neg (digits * (10 : Rat) ^ exp))

theorem rounds_toDouble (h : x.denoted? = some a) : Binary.Rounds a x.toDouble := by
  cases x <;> cases h
  case infinite neg => exact .infinite neg
  case finite neg digits exp =>
    rw [toDouble_finite]
    exact .finite neg (by positivity)

section Characters

theorem eq_toLower_or (c : Char) : c = c.toLower ∨ c = Char.ofNat (c.toLower.toNat - 32) := by
  have := toNat_toLower c
  split at this
  case isFalse => exact .inl (Char.toNat_inj.mp this.symm)
  case isTrue  =>
    refine .inr ?_
    rw [this, Nat.add_sub_cancel, Char.ofNat_toNat]

-- What holds of the letters of the number words in either case.
theorem forall_mem_word {p : Char → Prop} (hp : ∀ c ∈ "infinityINFINITY".toList, p c)
    (h : s.map Char.toLower = "inf".toList ∨ s.map Char.toLower = "infinity".toList) :
    ∀ c ∈ s, p c := by
  intro c hc
  have hl : c.toLower ∈ "infinity".toList := by
    have hm := List.mem_map_of_mem (f := Char.toLower) hc
    have hs : ∀ d ∈ "inf".toList, d ∈ "infinity".toList :=
      List.all_iff_forall_prop.mp (by decide)
    cases h
    case inl h => exact hs _ (h ▸ hm)
    case inr h => exact h ▸ hm
  have ⟨hs, hu⟩ : c.toLower ∈ "infinityINFINITY".toList ∧
      Char.ofNat (c.toLower.toNat - 32) ∈ "infinityINFINITY".toList := by
    revert hl
    generalize c.toLower = d
    revert d
    exact List.all_iff_forall_prop.mp (by decide)
  rcases eq_toLower_or c with he | he
  case inl => exact hp c (he ▸ hs)
  case inr => exact hp c (he ▸ hu)

def isSign (c : Char) : Bool :=
  c == '+' || c == '-'

theorem isSign_of_isDigit (h : isDigit c) : isSign c = false := by
  rw [Bool.eq_false_iff]
  intro hs
  simp only [isSign, Bool.or_eq_true, beq_iff_eq] at hs
  rcases hs with rfl | rfl <;> exact absurd h (by decide)

end Characters

section Parts

variable {p : Char → Bool}

theorem sign_append (hw : Sign w neg) (hs : Stops isSign s) : sign (w ++ s) = (neg, s) := by
  cases hw
  case plus | minus => rfl
  case none =>
    cases s
    case nil => rfl
    case cons c s =>
      have hc := Stops.cons.mp hs
      simp only [isSign, Bool.or_eq_false_iff, beq_eq_false_iff_ne] at hc
      simp [sign, hc]

theorem exists_sign (s : Text) : ∃ w, Sign w (sign s).1 ∧ s = w ++ (sign s).2 := by
  unfold sign
  split
  case h_1 => exact ⟨_, .plus, rfl⟩
  case h_2 => exact ⟨_, .minus, rfl⟩
  case h_3 => exact ⟨_, .none, rfl⟩

theorem stops_of_digits (hd : ∀ c ∈ ds, isDigit c) (hn : ds ≠ [])
    (hp : ∀ c, isDigit c → p c = false) : Stops p (ds ++ s) := by
  cases ds
  case nil  => exact absurd rfl hn
  case cons => exact Stops.cons.mpr (hp _ (hd _ List.mem_cons_self))

theorem Significand.stops (h : Significand s q) (hd : ∀ c, isDigit c → p c = false)
    (hp : p '.' = false) : Stops p (s ++ t) := by
  cases h
  case whole ds hn => exact stops_of_digits ds hn hd
  case point ds fs hds hfs hn =>
    rw [List.append_assoc]
    exact .append (fun c hc => hd c (hds c (List.mem_of_mem_head? hc))) (Stops.cons.mpr hp)

theorem Exponent.stops (h : Exponent t e) (hp : p 'e' = false ∧ p 'E' = false) : Stops p t := by
  cases h
  case none => exact .nil
  case written hc _ _ _ => rcases hc with rfl | rfl <;> simp [hp]

theorem exponent?_eq_some_iff : exponent? t = some e ↔ Exponent t e := by
  constructor
  case mp =>
    intro h
    cases t
    case nil => cases h; exact .none
    case cons c s =>
      obtain ⟨w, hw, hs⟩ := exists_sign s
      simp only [exponent?, Option.ite_none_right_eq_some, Bool.and_eq_true, Bool.or_eq_true,
        beq_iff_eq, Bool.not_eq_true', List.isEmpty_eq_false_iff, List.all_eq_true,
        Option.some.injEq] at h
      obtain ⟨⟨⟨hc, hn⟩, hd⟩, he⟩ := h
      rw [hs, ← he]
      exact .written hc hw hd hn
  case mpr =>
    intro h
    cases h
    case none => rfl
    case written c w ds neg hc hw hd hn =>
      have hs : Stops isSign ds := by
        have := stops_of_digits (s := []) hd hn fun _ => isSign_of_isDigit
        rwa [List.append_nil] at this
      have hd : ds.all isDigit := List.all_eq_true.mpr hd
      simp [exponent?, sign_append hw hs, hc, hn, hd]

theorem Significand.word?_append (h : Significand s q) : word? neg (s ++ t) = none := by
  cases h
  case whole ds hn =>
    cases s
    case nil  => exact absurd rfl hn
    case cons => exact word?_cons_of_isDigit (ds _ List.mem_cons_self)
  case point ds fs hd _ _ =>
    cases ds
    case nil  => exact word?_cons (by decide) (by decide) (by decide)
    case cons => exact word?_cons_of_isDigit (hd _ List.mem_cons_self)

theorem fraction_of_stops (h : Stops (· == '.') s) : fraction s = ([], s) := by
  unfold fraction
  split
  case h_1 => simp at h
  case h_2 => rfl

theorem finite?_append (hs : Significand s q) (ht : Exponent t e) (neg : Bool) :
    ∃ x, finite? neg (s ++ t) = some x ∧ x.denoted? = some (.signed neg (q * 10 ^ e)) := by
  have hd : Stops isDigit t := ht.stops (by decide)
  have he := exponent?_eq_some_iff.mpr ht
  cases hs
  case whole ds hn =>
    have hf : fraction t = ([], t) := fraction_of_stops (ht.stops (by decide))
    refine ⟨.finite neg (natOfDigits s) e, ?_, rfl⟩
    simp [finite?, cut_append ds hd, hf, he, hn]
  case point ds fs hds hfs hn =>
    have hp : Stops isDigit ('.' :: (fs ++ t)) := Stops.cons.mpr (by decide)
    have hf : fraction ('.' :: (fs ++ t)) = (fs, t) := cut_append hfs hd
    refine ⟨.finite neg (natOfDigits (ds ++ fs)) (e - fs.length), ?_, ?_⟩
    · simp [finite?, cut_append hds hp, hf, he]
      tauto
    · rw [denoted?, natOfDigits_append hfs, zpow_sub₀ (by norm_num), zpow_natCast]
      congr 2
      push_cast
      field_simp

theorem exists_of_finite? (h : finite? neg s = some x) :
    ∃ (t u : Text) (q : Rat) (e : Int), s = t ++ u ∧ Significand t q ∧ Exponent u e := by
  rw [finite?] at h
  obtain ⟨ds, r, hc⟩ : ∃ ds r, s.cut isDigit = (ds, r) := ⟨_, _, rfl⟩
  obtain ⟨hs, hd, -⟩ := cut_eq_iff.mp hc
  simp only [hc, Option.ite_none_left_eq_some, Option.map_eq_some_iff, Bool.not_eq_true,
    Bool.and_eq_false_iff, List.isEmpty_eq_false_iff] at h
  obtain ⟨hn, e, he, -⟩ := h
  replace he := exponent?_eq_some_iff.mp he
  by_cases hp : Stops (· == '.') r
  case pos =>
    rw [fraction_of_stops hp] at hn he
    exact ⟨ds, r, _, e, hs, .whole hd (hn.resolve_right (by simp)), he⟩
  case neg =>
    cases r
    case nil => exact absurd .nil hp
    case cons c r =>
      obtain rfl : c = '.' := by simpa using hp
      obtain ⟨fs, u, hf⟩ : ∃ fs u, Text.cut isDigit r = (fs, u) := ⟨_, _, rfl⟩
      obtain ⟨hr, hfs, _⟩ := cut_eq_iff.mp hf
      simp only [fraction, hf] at hn he
      exact ⟨_, u, _, e, by simp [hs, hr], .point hd hfs hn, he⟩

end Parts

theorem read_of_writes (h : s.Writes a) : ∃ x, read s = .ok x ∧ x.denoted? = some a := by
  cases h
  case infinite w s neg hw hs =>
    have hl := forall_mem_word (p := fun c => isSign c = false ∧ isForeign c = false)
      (List.all_iff_forall_prop.mp (by decide)) hs
    have hf : s.any isForeign = false := List.any_eq_false.mpr fun c hc => by simp [hl c hc]
    have hm : s.map foldLetter = s.map Char.toLower :=
      List.map_congr_left fun c hc => by simp [foldLetter, hl c hc]
    have hs' : Stops isSign s := fun c hc => (hl c (List.mem_of_mem_head? hc)).left
    refine ⟨.infinite neg, ?_, rfl⟩
    simp only [read, sign_append hw hs', word?, hm, if_pos hs, hf]
    rfl
  case finite w s t neg q e hw hs ht =>
    obtain ⟨x, hx, he⟩ := finite?_append hs ht neg
    have hs' : Stops isSign (s ++ t) := hs.stops (fun _ => isSign_of_isDigit) (by decide)
    refine ⟨x, ?_, he⟩
    simp only [read, sign_append hw hs', hs.word?_append, hx]

theorem writes_of_word? (hw : Sign w neg) (h : word? neg s = some x)
    (hf : s.any isForeign = false) (ha : x.denoted? = some a) : Writes (w ++ s) a := by
  have hm : s.map foldLetter = s.map Char.toLower := by
    refine List.map_congr_left fun c hc => ?_
    have := List.any_eq_false.mp hf c hc
    simp [foldLetter, this]
  rw [word?, hm] at h
  split at h
  case isTrue hs =>
    cases h
    cases ha
    exact .infinite hw hs
  case isFalse =>
    obtain ⟨_, h⟩ := Option.ite_none_right_eq_some.mp h
    cases h
    contradiction

theorem writes_of_read (h : read s = .ok x) (ha : x.denoted? = some a) : s.Writes a := by
  have ⟨w, hw, hs⟩ := exists_sign s
  simp only [read] at h
  rw [hs]
  split at h
  case h_1 y hy =>
    split at h <;> cases h
    case isFalse hf => exact writes_of_word? hw hy (Bool.eq_false_iff.mpr hf) ha
  case h_2 hy =>
    cases h
    obtain ⟨t, u, q, e, hs, ht, hu⟩ := exists_of_finite? hy
    obtain ⟨z, hz, hx⟩ := finite?_append ht hu (sign s).1
    rw [hs] at hy ⊢
    rw [hy] at hz
    cases hz
    cases ha.symm.trans hx
    exact .finite hw ht hu
  case h_3 => contradiction

-- What holds of the digits of all scripts and of the other characters of the notation.
theorem forall_mem_of_writes {p : Char → Prop} (hd : ∀ c, isDigit c → p c)
    (hp : ∀ c ∈ "+-.eEinftyINFTY".toList, p c) (h : s.Writes a) : ∀ c ∈ s, p c := by
  have sign {w : Text} {neg : Bool} (hw : Sign w neg) : ∀ c ∈ w, p c := by
    cases hw <;> simp_all
  cases h
  case infinite w s neg hw hs =>
    have hl : ∀ c ∈ "infinityINFINITY".toList, c ∈ "+-.eEinftyINFTY".toList :=
      List.all_iff_forall_prop.mp (by decide)
    have hs := forall_mem_word (p := p) (fun c hc => hp c (hl c hc)) hs
    exact List.forall_mem_append.mpr ⟨sign hw, hs⟩
  case finite w s t neg q e hw hs ht =>
    refine List.forall_mem_append.mpr ⟨sign hw, List.forall_mem_append.mpr ⟨?_, ?_⟩⟩
    · cases hs
      case whole ds _ => exact fun c hc => hd c (ds c hc)
      case point ds fs hds hfs _ =>
        simp only [List.mem_append, List.mem_cons]
        rintro c (hc | rfl | hc)
        · exact hd c (hds c hc)
        · exact hp _ (by decide)
        · exact hd c (hfs c hc)
    · cases ht
      case none => simp
      case written c u ds neg hc hu hds _ =>
        simp only [List.mem_cons, List.mem_append]
        rintro d (rfl | hd' | hd')
        · rcases hc with rfl | rfl <;> exact hp _ (by decide)
        · exact sign hu d hd'
        · exact hd d (hds d hd')

theorem ne_nil_of_writes (h : s.Writes a) : s ≠ [] := by
  rintro rfl
  have ⟨x, hx, _⟩ := read_of_writes h
  contradiction

end Numeral
end MemoBase
