import MemoBase.Files.Disk
import MemoBase.Proofs.Text.Segments

namespace MemoBase

namespace Path

variable {p q : Path} {s t name : Text} {before after : List Text}

theorem segments_slash (s t : Text) :
    Text.segments ['/'] (s ++ '/' :: t) = Text.segments ['/'] s ++ Text.segments ['/'] t := by
  induction s
  case nil         => exact Text.segments_append (List.cons_ne_nil _ _)
  case cons c s hi =>
    simp only [Text.segments_singleton] at hi ⊢
    rw [List.cons_append, List.splitOn_cons_eq_if_modifyHead, List.splitOn_cons_eq_if_modifyHead, hi]
    split
    case isTrue  => rfl
    case isFalse =>
      obtain ⟨p, ps, hp⟩ := List.exists_cons_of_ne_nil (List.splitOn_ne_nil '/' s)
      rw [hp]
      rfl

-- Only the first character tells whether a path is absolute.
theorem isAbsolute_ofText : (ofText s).isAbsolute ↔ s.head? = some '/' := by
  rw [isAbsolute, decide_eq_true_eq, ofText, rootOf.eq_def]
  split
  case h_1 | h_2 | h_3 => simp
  case h_4 h =>
    refine iff_of_false (by simp) fun hs => ?_
    obtain ⟨s', rfl⟩ := List.head?_eq_some_iff.mp hs
    exact h s' rfl

theorem isAbsolute_ofText_slash (s t u : Text) :
    (ofText (s ++ '/' :: t)).isAbsolute = (ofText (s ++ '/' :: u)).isAbsolute := by
  rw [Bool.eq_iff_iff, isAbsolute_ofText, isAbsolute_ofText]
  cases s <;> rfl

theorem parts_ofText_slash (s t : Text) :
    (ofText (s ++ '/' :: t)).parts = (ofText s).parts ++ (ofText t).parts := by
  simp [ofText, segments_slash]

theorem parts_ofText_name (hs : '/' ∉ name) (hn : name ≠ []) (hd : name ≠ ['.']) :
    (ofText name).parts = [name] := by
  have h : Text.segments ['/'] name = [name] := by
    exact Text.segments_of_not_infix fun hi => hs (hi.subset (List.mem_singleton_self _))
  simp [ofText, h, hn, hd]

-- A name and the double dot behind it cancel each other.
theorem collapse_up (hn : name ≠ up) :
    collapse (before ++ name :: up :: after) = collapse (before ++ after) := by
  simp [collapse, hn]

theorem resolve_congr {dir : Path} (ha : p.isAbsolute = q.isAbsolute)
    (hr : collapse (dir.parts ++ p.parts) = collapse (dir.parts ++ q.parts))
    (hc : collapse p.parts = collapse q.parts) : resolve dir p = resolve dir q := by
  rw [resolve, resolve, join, join, ha]
  split
  case isTrue  => rw [hc]
  case isFalse => rw [hr]

end Path

namespace Disk

variable (d : Disk) (s t : Text)

-- Another spelling of a path leads to the same file: a single dot stands for nothing.
theorem resolve_ofText_dot :
    d.resolve (.ofText (s ++ "/./".toList ++ t)) = d.resolve (.ofText (s ++ '/' :: t)) := by
  have hp : (Path.ofText (s ++ "/./".toList ++ t)).parts = (Path.ofText (s ++ '/' :: t)).parts := by
    have : s ++ "/./".toList ++ t = s ++ '/' :: (['.'] ++ '/' :: t) := by simp
    rw [this, Path.parts_ofText_slash, Path.parts_ofText_slash, Path.parts_ofText_slash]
    rfl
  have ha : (Path.ofText (s ++ "/./".toList ++ t)).isAbsolute =
      (Path.ofText (s ++ '/' :: t)).isAbsolute := by
    rw [List.append_assoc]
    exact Path.isAbsolute_ofText_slash s _ t
  exact Path.resolve_congr ha (by rw [hp]) (by rw [hp])

-- So does a name with a double dot behind it.
theorem resolve_ofText_up {name : Text} (hs : '/' ∉ name) (hn : name ≠ []) (hd : name ≠ ['.'])
    (hu : name ≠ Path.up) :
    d.resolve (.ofText (s ++ '/' :: (name ++ "/../".toList ++ t))) =
      d.resolve (.ofText (s ++ '/' :: t)) := by
  have hp : (Path.ofText (s ++ '/' :: (name ++ "/../".toList ++ t))).parts =
      (Path.ofText s).parts ++ name :: Path.up :: (Path.ofText t).parts := by
    have : name ++ "/../".toList ++ t = name ++ '/' :: (Path.up ++ '/' :: t) := by simp [Path.up]
    rw [this, Path.parts_ofText_slash, Path.parts_ofText_slash, Path.parts_ofText_slash,
      Path.parts_ofText_name hs hn hd]
    rfl
  refine Path.resolve_congr (Path.isAbsolute_ofText_slash s _ t) ?relative ?absolute
  case relative =>
    rw [hp, Path.parts_ofText_slash, ← List.append_assoc, ← List.append_assoc]
    exact Path.collapse_up hu
  case absolute =>
    rw [hp, Path.parts_ofText_slash]
    exact Path.collapse_up hu

end Disk
end MemoBase
