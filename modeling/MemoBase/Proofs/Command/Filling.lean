import MemoBase.Command.Template
import MemoBase.Proofs.Text.Cut

namespace MemoBase.Template

open Text

variable {c : Char} {s t key rest : Text} {m : Memo}

-- What a template is made of: text without opening braces, and places.
inductive Part
  | literal (s : Text) (plain : '\x7b' ∉ s)
  | place (key : Text) (unclosed : '\x7d' ∉ key) (inline : '\n' ∉ key)

namespace Part

def text : Part → Text
  | literal s _   => s
  | place key _ _ => '\x7b' :: (key ++ ['\x7d'])

-- The value of the first node with the key, the header being the first of all nodes.
def filled (m : Memo) : Part → Text
  | literal s _   => s
  | place key _ _ => (m.nodes.find? (·.key = key)).elim [] (·.value.plain)

end Part

def firstLine (s : Text) : Text :=
  s.takeWhile (· != '\n')

-- No brace is left as text on the last line.
def Closed (s : Text) : Prop :=
  .char '\x7b' ∉ (pieces s).rtakeWhile (· != .char '\n')

instance (s : Text) : Decidable (Closed s) :=
  inferInstanceAs (Decidable (_ ∉ _))

section Places

theorem place?_eq_some_iff : place? c s = some (key, rest) ↔
    c = '\x7b' ∧ s = key ++ '\x7d' :: rest ∧ '\x7d' ∉ key ∧ '\n' ∉ key := by
  have hk : (∀ d ∈ key, (d != '\x7d' && d != '\n') = true) ↔ '\x7d' ∉ key ∧ '\n' ∉ key := by
    simp only [Bool.and_eq_true, bne_iff_ne]
    grind
  rw [← hk, place?]
  constructor
  case mp =>
    intro h
    split at h
    case h_1 hc =>
      obtain ⟨hb, h⟩ := Option.ite_none_right_eq_some.mp h
      cases h
      obtain ⟨hs, hk, _⟩ := cut_eq_iff.mp hc
      exact ⟨hb, hs, hk⟩
    case h_2 => contradiction
  case mpr =>
    rintro ⟨rfl, rfl, h⟩
    rw [cut_append h (Stops.cons.mpr (by decide))]
    rfl

theorem mem_firstLine_iff : '\x7d' ∈ firstLine s ↔
    ∃ key rest, s = key ++ '\x7d' :: rest ∧ '\x7d' ∉ key ∧ '\n' ∉ key := by
  constructor
  case mp =>
    intro h
    obtain ⟨key, rest, he, hk⟩ := List.eq_append_cons_of_mem h
    have hs : firstLine s ++ s.dropWhile (· != '\n') = s := List.takeWhile_append_dropWhile
    have hn : '\n' ∉ firstLine s := fun hn => by simpa using List.mem_takeWhile_imp hn
    rw [he] at hs hn
    exact ⟨key, _, by rw [← hs, List.append_assoc, List.cons_append], hk,
      fun h => hn (List.mem_append_left _ h)⟩
  case mpr =>
    rintro ⟨key, rest, rfl, _, hn⟩
    rw [firstLine, List.takeWhile_append_of_pos (by grind)]
    simp

-- Only the text up to the end of the line counts.
theorem place?_eq_none_iff : place? c s = none ↔ (c = '\x7b' → '\x7d' ∉ firstLine s) := by
  rw [Option.eq_none_iff_forall_ne_some, Prod.forall]
  simp only [ne_eq, place?_eq_some_iff, mem_firstLine_iff]
  grind

theorem place?_append (h : place? c s = some (key, rest)) (t : Text) :
    place? c (s ++ t) = some (key, rest ++ t) := by
  obtain ⟨hc, rfl, hk⟩ := place?_eq_some_iff.mp h
  exact place?_eq_some_iff.mpr ⟨hc, by simp, hk⟩

theorem pieces_of_some (h : place? c s = some (key, rest)) :
    pieces (c :: s) = .place key :: pieces rest := by
  rw [pieces]
  split <;> simp_all

theorem pieces_of_none (h : place? c s = none) : pieces (c :: s) = .char c :: pieces s := by
  rw [pieces]
  split <;> simp_all

end Places

section Cuts

theorem mem_of_mem_pieces (h : .char c ∈ pieces s) : c ∈ s := by
  induction s using pieces.induct
  case case1 => simp [pieces] at h
  case case2 d s key rest hp ih =>
    obtain ⟨_, hs, _⟩ := place?_eq_some_iff.mp hp
    rw [pieces_of_some hp, List.mem_cons] at h
    have := ih (h.resolve_left (by simp))
    simp [hs, this]
  case case3 d s hp ih =>
    rw [pieces_of_none hp, List.mem_cons, Piece.char.injEq] at h
    exact List.mem_cons.mpr (h.imp_right ih)

theorem Closed.tail {p : Piece} (h : pieces s = p :: pieces t) (hs : Closed s) : Closed t := by
  rw [Closed, List.rtakeWhile, List.mem_reverse] at hs ⊢
  intro ht
  rw [h, List.reverse_cons, List.takeWhile_append] at hs
  split at hs
  case isTrue  => exact hs (List.mem_append_left _ ((List.takeWhile_prefix _).subset ht))
  case isFalse => exact hs ht

theorem Closed.mem_of_brace (h : pieces s = .char '\x7b' :: pieces t) (hs : Closed s) : '\n' ∈ t := by
  refine mem_of_mem_pieces (by_contra fun hn => hs ?_)
  rw [h, List.rtakeWhile_eq_self_iff.mpr (by simp; grind)]
  exact List.mem_cons_self

theorem not_mem_firstLine_append (hs : '\x7d' ∉ firstLine s) (h : '\n' ∈ s ∨ '\x7d' ∉ firstLine t) :
    '\x7d' ∉ firstLine (s ++ t) := by
  induction s
  case nil => simpa using h
  case cons d s ih =>
    by_cases hd : d = '\n'
    case pos => simp [firstLine, hd]
    case neg => simp_all [firstLine, @eq_comm Char '\n']

-- Either the first part waits for no closing brace, or the second part does not have one to offer.
theorem pieces_append (h : Closed s ∨ '\x7d' ∉ firstLine t) :
    pieces (s ++ t) = pieces s ++ pieces t := by
  induction s using pieces.induct
  case case1 => simp [pieces]
  case case2 c s key rest hp ih =>
    have hs := pieces_of_some hp
    rw [List.cons_append, pieces_of_some (place?_append hp t), hs, ih (h.imp_left (.tail hs)),
      List.cons_append]
  case case3 c s hp ih =>
    have hs := pieces_of_none hp
    have hpt : place? c (s ++ t) = none := by
      rw [place?_eq_none_iff] at hp ⊢
      rintro rfl
      exact not_mem_firstLine_append (hp rfl) (h.imp_left (Closed.mem_of_brace hs))
    rw [List.cons_append, pieces_of_none hpt, hs, ih (h.imp_left (.tail hs)), List.cons_append]

theorem pieces_literal (h : '\x7b' ∉ s) : pieces s = s.map .char := by
  induction s
  case nil => simp [pieces]
  case cons c s ih =>
    obtain ⟨hc, hs⟩ := List.ne_and_not_mem_of_not_mem_cons h
    rw [pieces_of_none (place?_eq_none_iff.mpr fun he => absurd he.symm hc), ih hs, List.map_cons]

theorem closed_literal (h : '\x7b' ∉ s) : Closed s := by
  intro hb
  have := List.rtakeWhile_suffix _ _ |>.mem hb
  simp [pieces_literal h, h] at this

theorem fill_place (key : Text) (m : Memo) :
    (Piece.place key).fill m = (m.nodes.find? (·.key = key)).elim [] (·.value.plain) := by
  simp only [Piece.fill, Memo.get?, beq_eq_decide]
  cases m.nodes.find? (·.key = key) <;> rfl

theorem render_append (h : Closed s ∨ '\x7d' ∉ firstLine t) :
    render (s ++ t) m = render s m ++ render t m := by
  rw [render, pieces_append h, List.flatMap_append, render, render]

theorem render_brace (h : '\x7d' ∉ firstLine t) : render ('\x7b' :: t) m = '\x7b' :: render t m := by
  rw [render, pieces_of_none (place?_eq_none_iff.mpr fun _ => h), List.flatMap_cons]
  rfl

theorem render_part_append (p : Part) (s : Text) :
    render (p.text ++ s) m = p.filled m ++ render s m := by
  cases p
  case literal t ht =>
    rw [Part.text, render_append (.inl (closed_literal ht)), render, pieces_literal ht]
    simp [List.flatMap_map, Piece.fill, Part.filled]
  case place key hb hn =>
    have hp : place? '\x7b' (key ++ '\x7d' :: s) = some (key, s) :=
      place?_eq_some_iff.mpr ⟨rfl, rfl, hb, hn⟩
    have ht : (Part.place key hb hn).text ++ s = '\x7b' :: (key ++ '\x7d' :: s) := by simp [Part.text]
    rw [ht, render, pieces_of_some hp, List.flatMap_cons, ← render, fill_place]
    rfl

end Cuts

theorem render_parts (parts : List Part) (m : Memo) :
    render (parts.flatMap Part.text) m = parts.flatMap (Part.filled m) := by
  induction parts
  case nil           => simp [render, pieces]
  case cons p ps ih  => rw [List.flatMap_cons, List.flatMap_cons, render_part_append, ih]

-- Every part stands for itself, whatever the values are that are put in for the others.
theorem filled_part_by_part (m : Memo) :
    (∀ parts : List Part, render (parts.flatMap Part.text) m = parts.flatMap (Part.filled m)) ∧
    (∀ s t, Closed s → render (s ++ t) m = render s m ++ render t m) ∧
    ∀ s t, '\x7d' ∉ firstLine t → render (s ++ '\x7b' :: t) m = render s m ++ '\x7b' :: render t m := by
  refine ⟨fun parts => render_parts parts m, fun s t h => render_append (.inl h), fun s t h => ?_⟩
  have hb : '\x7d' ∉ firstLine ('\x7b' :: t) := by simpa [firstLine] using h
  rw [render_append (.inr hb), render_brace h]

-- The value of one place looks like another place, and so does an open brace of the line before.
theorem filled_part_by_part_braces :
    let m : Memo := ⟨⟨"book".toList, .text "\x7bage\x7d".toList, []⟩, [⟨"age".toList, .integer 7, []⟩]⟩
    let s : Text := "\x7bage\n\x7b\x7bx\x7d\x7d".toList
    let t : Text := "\x7bbook\x7d\x7d\x7bage\x7d".toList
    Closed s ∧ render t m = "\x7bage\x7d\x7d7".toList ∧
      render (s ++ t) m = render s m ++ render t m := by
  intro m s t
  have hs : Closed s := by decide +kernel
  exact ⟨hs, by decide +kernel, (filled_part_by_part m).right.left s t hs⟩

end MemoBase.Template
