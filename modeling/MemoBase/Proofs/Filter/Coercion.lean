import MemoBase.Proofs.Filter.Reloaded
import MemoBase.Proofs.Number.Notation

namespace MemoBase

inductive Value.Denotes : Value → Exact → Prop
  | text {s : Text} {a : Exact} : s.Writes a → Denotes (text s) a
  | integer (n : Int32) : Denotes (integer n) (.finite n.toInt)
  | number {x : Single} {a : Exact} : x.denoted? = some a → Denotes (number x) a

variable {v w : Value} {a b : Exact} {x y : Single} {s : Text}

namespace Binary

variable {F G : Format}

theorem isNan_convert (x : Binary F) : (x.convert G).isNan = x.isNan := by
  cases x
  case nan => rfl
  case num =>
    rw [convert]
    split <;> rfl

end Binary

namespace Single

theorem read_of_writes (h : s.Writes a) :
    ∃ y : Double, Binary.Rounds a y ∧ Single.read s = .ok (y.convert .single) := by
  have ⟨n, hn, ha⟩ := Numeral.read_of_writes h
  exact ⟨n.toDouble, Numeral.rounds_toDouble ha, by rw [Single.read, hn, Except.map]⟩

theorem exists_read (h : s.Writes a) : ∃ x, Single.read s = .ok x :=
  have ⟨_, _, hs⟩ := read_of_writes h
  ⟨_, hs⟩

theorem exists_writes (h : Single.read s = .ok x) (hx : x.isNan = false) : ∃ a, s.Writes a := by
  rw [Single.read] at h
  cases hn : Numeral.read s
  case error => simp [hn, Except.map] at h
  case ok n  =>
    cases n
    case nan =>
      simp only [hn, Except.map, Except.ok.injEq] at h
      subst h
      contradiction
    case infinite | finite => exact ⟨_, Numeral.writes_of_read hn rfl⟩

end Single

namespace Value

-- The display text of a number is taken to the same single as the number.
theorem read_display (h : v.toSingle = .ok x) : Single.read v.display = .ok x := by
  cases v
  case text s =>
    simp only [toSingle] at h
    cases hs : Single.read s
    case error => simp [hs, Except.mapError] at h
    case ok    => simpa [hs, Except.mapError, display] using h
  case integer n =>
    cases h
    exact Single.read_ofInt (natAbs_int32_lt n)
  case number => cases h; exact Single.read_text x
  case block | bool => contradiction

namespace Denotes

-- A value is rounded to a double, and then to a single. Integers and singles fit into a double.
theorem rounds (h : v.Denotes a) :
    ∃ y : Double, Binary.Rounds a y ∧ v.toSingle = .ok (y.convert .single) := by
  cases h
  case text h =>
    have ⟨y, hy, hs⟩ := Single.read_of_writes h
    exact ⟨y, hy, toSingle_text hs⟩
  case integer n =>
    refine ⟨.ofRat (n.toInt < 0) n.toInt.natAbs, ?_, ?_⟩
    · rw [← Exact.signed_natAbs]
      exact .finite _ (Nat.cast_nonneg _)
    · rw [Binary.convert_ofRat_natCast (natAbs_int32_lt n)]
      rfl
  case number x h => exact ⟨x.convert .double, Binary.rounds_convert h, by simp [toSingle]⟩

theorem unique (h : v.Denotes a) (h' : v.Denotes b) : a = b := by
  cases h <;> cases h'
  case text.text h h' =>
    have ⟨n, hn, ha⟩ := Numeral.read_of_writes h
    have ⟨n', hn', hb⟩ := Numeral.read_of_writes h'
    rw [hn] at hn'
    cases hn'
    exact Option.some.inj (ha.symm.trans hb)
  case integer.integer => rfl
  case number.number h h' => exact Option.some.inj (h.symm.trans h')

end Denotes

theorem exists_denotes_iff :
    (∃ a, v.Denotes a) ↔ ∃ x, v.toSingle = .ok x ∧ x.isNan = false := by
  constructor
  case mp =>
    intro ⟨a, h⟩
    have ⟨y, hy, hv⟩ := h.rounds
    exact ⟨_, hv, y.isNan_convert.trans hy.isNan⟩
  case mpr =>
    intro ⟨x, h, hx⟩
    cases v
    case text s =>
      have ⟨a, ha⟩ := Single.exists_writes (read_display h) hx
      exact ⟨a, .text ha⟩
    case integer n => exact ⟨_, .integer n⟩
    case number    =>
      cases h
      have ⟨a, ha⟩ := Binary.exists_denoted?_iff.mpr hx
      exact ⟨a, .number ha⟩
    case block | bool => contradiction

-- Both roundings keep the order.
theorem Denotes.le (hv : v.Denotes a) (hw : w.Denotes b) (hx : v.toSingle = .ok x)
    (hy : w.toSingle = .ok y) (h : a ≤ b) : x.le y := by
  have ⟨x', hx', hv⟩ := hv.rounds
  have ⟨y', hy', hw⟩ := hw.rounds
  cases hx.symm.trans hv
  cases hy.symm.trans hw
  exact Binary.convert_mono (by decide) (hx'.le hy' h)

end Value
end MemoBase
