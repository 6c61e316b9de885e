import Mathlib.Data.List.TakeWhile
import MemoBase.Proofs.Desk.Scan
import MemoBase.Proofs.Memo.Attrs

namespace MemoBase

open Desk

namespace Draft

theorem finish_of_attr {d : Draft} (h : d.line.mark = .attr) :
    d.finish = .attr d.line.key d.value := by
  simp [finish, h]

theorem mark_of_finish_eq_attr {d : Draft} {key : Text} {v : Value} (h : d.finish = .attr key v) :
    d.line.mark = .attr := by
  unfold finish at h
  split at h <;> simp_all

end Draft

-- The nodes that a statement puts on a card, all of them with the same slot.
def Statement.places (slot : Nat) : Statement → List Place
  | .header key v => [⟨key, v, slot⟩]
  | .data key vs  => vs.map (⟨key, ·, slot⟩)
  | .attr ..      => []

theorem Statement.slot_of_mem_places {s : Statement} {slot : Nat} {p : Place}
    (h : p ∈ s.places slot) : p.slot = slot := by
  cases s
  case header => exact List.mem_singleton.mp h ▸ rfl
  case data =>
    have ⟨_, _, h⟩ := List.mem_map.mp h
    exact h ▸ rfl
  case attr => contradiction

-- Only the values of a line with a separator can be none at all.
theorem Draft.multiple_of_places_eq_nil {d : Draft} {slot : Nat} (hd : d.line.mark ≠ .attr)
    (h : d.finish.places slot = []) : d.line.mark = .data ∧ d.line.sep ≠ [] := by
  unfold Draft.finish at h
  cases hm : d.line.mark
  case header => simp [hm, Statement.places] at h
  case attr   => contradiction
  case data =>
    refine ⟨rfl, fun hs => ?_⟩
    simp [hm, hs, Statement.places] at h

namespace Scan

variable {x y : Scan} {s : Statement} {card k slot : Nat} {key : Text} {v : Value}
variable {a : Spot} {p : Place} {ds ds₁ ds₂ : List Draft} {d e : Draft}

section Steps

-- The current card is the last one, and without one there is no target.
structure Sound (x : Scan) : Prop where
  current : x.card?.elim 0 (· + 1) = x.desk.cards.length
  valid   : x.desk.Valid
  target  : x.card? = none → x.target? = none

-- A statement puts its nodes behind the others, from a position of the last card on.
structure Extends (x : Scan) (s : Statement) (y : Scan) (card k : Nat) : Prop where
  current : y.card? = some card
  last    : y.desk.cards.length = card + 1
  valid   : y.desk.Valid
  target  : y.target? = if s.places x.desk.slots.length = [] then none else some x.desk.slots.length
  slots   : y.desk.slots = x.desk.slots ++ [[]]
  free    : ∀ i, k ≤ i → x.desk.place? card i = none
  place   : ∀ a : Spot, y.desk.place? a.1 a.2 =
    if a.1 = card ∧ k ≤ a.2 then (s.places x.desk.slots.length)[a.2 - k]? else x.desk.place? a.1 a.2

theorem Sound.extends_putHeader (hx : Sound x) (key : Text) (v : Value) :
    Extends x (.header key v) (x.putHeader key v) x.desk.cards.length 0 where
  current := rfl
  last    := List.length_append
  valid   := desk_putHeader_putAttrs x [] ▸ hx.valid.putRecord _
  target  := rfl
  slots   := rfl
  free    := fun i _ => by simp [Desk.place?, Desk.number?]
  place   := by
    intro a
    have hn : (x.putHeader key v).desk.number? a.1 a.2 =
        if a.1 = x.desk.cards.length then (List.range' x.desk.places.length 1)[a.2]?
        else x.desk.number? a.1 a.2 := by
      have hr : (x.putHeader key v).desk.cards.map Card.nodes =
          x.desk.cards.map Card.nodes ++ [[x.desk.places.length]] := by
        simp [putHeader, Card.nodes]
      rw [number?_eq, hr, at?_concat, number?_eq, List.length_map]
      rfl
    simp only [Nat.zero_le, and_true]
    split at hn
    case isTrue hc  => rw [if_pos hc, place?_range' [_] rfl hn]; rfl
    case isFalse hc => rw [if_neg hc, hx.valid.place?_of_number?_eq [_] rfl hn]

theorem Sound.extends_putData (hx : Sound x) (hc : x.card? = some card) (key : Text)
    (vs : List Value) : ∃ k, Extends x (.data key vs) (x.putData card key vs) card k := by
  have hl : card + 1 = x.desk.cards.length := by simpa [hc] using hx.current
  obtain ⟨c, hr⟩ : ∃ c, x.desk.cards[card]? = some c := ⟨_, List.getElem?_eq_getElem (by omega)⟩
  refine ⟨c.nodes.length, hc, ?last, ?valid, ?target, rfl, ?free, ?place⟩
  case last    => simp [putData, hl]
  case valid   => exact hx.valid.putEntry card ⟨key, vs, []⟩
  case target  => cases vs <;> rfl
  case free    => exact fun i hi => by simp [Desk.place?, Desk.number?, hr, hi]
  case place =>
    intro a
    have hn : (x.putData card key vs).desk.number? a.1 a.2 =
        if a.1 = card ∧ c.nodes.length ≤ a.2 then
          (List.range' x.desk.places.length vs.length)[a.2 - c.nodes.length]?
        else x.desk.number? a.1 a.2 := by
      have hp : (x.putData card key vs).desk.cards.map Card.nodes =
          (x.desk.cards.map Card.nodes).modify card
            (· ++ List.range' x.desk.places.length vs.length) :=
        map_modify (Card.nodes_append _) x.desk.cards card
      rw [number?_eq, hp, number?_eq]
      exact at?_modify_append (by simp [hr])
    rw [Statement.places]
    have hvs : vs.length = (vs.map (⟨key, ·, x.desk.slots.length⟩) : List Place).length := by simp
    split at hn
    case isTrue hk  => rw [if_pos hk, place?_range' _ rfl (hvs ▸ hn)]
    case isFalse hk => rw [if_neg hk, hx.valid.place?_of_number?_eq _ rfl hn]

-- A statement leaves the places on the desk as they are.
structure Keeps (x y : Scan) : Prop where
  card   : y.card? = x.card?
  target : y.target? = x.target?
  cards  : y.desk.cards = x.desk.cards
  places : y.desk.places = x.desk.places
  slots  : y.desk.slots.length = x.desk.slots.length

theorem Keeps.place_eq (h : Keeps x y) (i : Nat) : y.desk.place i = x.desk.place i := by
  rw [place, place, h.places]

theorem Keeps.place?_eq (h : Keeps x y) : y.desk.place? a.1 a.2 = x.desk.place? a.1 a.2 := by
  rw [place?, place?, number?_eq, number?_eq, h.cards]
  exact Option.map_congr fun i _ => h.place_eq i

theorem Keeps.node?_eq_none_iff (h : Keeps x y) : y.desk.node? a = none ↔ x.desk.node? a = none := by
  rw [Desk.node?_eq_none_iff, Desk.node?_eq_none_iff, h.place?_eq]

theorem Put.keeps (h : Put x (.attr key v) y) : Keeps x y := by
  cases h
  case attr     => exact ⟨rfl, rfl, rfl, rfl, List.length_modify ..⟩
  case dropAttr => exact ⟨rfl, rfl, rfl, rfl, rfl⟩

theorem Put.extends_or_keeps (h : Put x s y) (hx : Sound x) :
    (∃ card k, Extends x s y card k) ∨ Keeps x y ∧ (x.card? = none ∨ ∃ key v, s = .attr key v) := by
  cases h
  case header key v   => exact .inl ⟨_, _, hx.extends_putHeader key v⟩
  case data key vs hc => exact .inl ⟨_, hx.extends_putData hc key vs⟩
  case dropData hc    => exact .inr ⟨⟨rfl, rfl, rfl, rfl, rfl⟩, .inl hc⟩
  case attr hc ht     => exact .inr ⟨(Put.attr hc ht).keeps, .inr ⟨_, _, rfl⟩⟩
  case dropAttr       => exact .inr ⟨⟨rfl, rfl, rfl, rfl, rfl⟩, .inr ⟨_, _, rfl⟩⟩

theorem Sound.empty : Sound {} where
  current := rfl
  valid   := .nil
  target  := fun _ => rfl

theorem Sound.place?_eq_none (hx : Sound x) (hc : x.card? = none) : x.desk.place? a.1 a.2 = none := by
  have hl : x.desk.cards = [] := by simpa [hc, eq_comm] using hx.current
  simp [Desk.place?, Desk.number?, hl]

theorem Extends.sound (h : Extends x s y card k) : Sound y where
  current := by rw [h.current, h.last]; rfl
  valid   := h.valid
  target  := by simp [h.current]

theorem Keeps.sound (h : Keeps x y) (hx : Sound x) : Sound y where
  current := by rw [h.card, h.cards, hx.current]
  valid   := by
    refine ⟨?numbers, ?slots⟩
    case numbers => rw [h.cards, h.places]; exact hx.valid.numbers
    case slots   => rw [h.places, h.slots]; exact hx.valid.slots
  target  := by rw [h.card, h.target]; exact hx.target

theorem Put.sound (h : Put x s y) (hx : Sound x) : Sound y := by
  rcases h.extends_or_keeps hx with ⟨_, _, he⟩ | ⟨hk, _⟩
  case inl => exact he.sound
  case inr => exact hk.sound hx

-- Nothing is taken off the desk.
theorem Extends.place?_mono (h : Extends x s y card k) (hp : p ∈ x.desk.place? a.1 a.2) :
    p ∈ y.desk.place? a.1 a.2 := by
  rw [h.place, if_neg]
  · exact hp
  · rintro ⟨rfl, hk⟩
    rw [h.free a.2 hk] at hp
    contradiction

theorem Put.place?_mono (h : Put x s y) (hx : Sound x) (hp : p ∈ x.desk.place? a.1 a.2) :
    p ∈ y.desk.place? a.1 a.2 := by
  rcases h.extends_or_keeps hx with ⟨_, _, he⟩ | ⟨hk, _⟩
  case inl => exact he.place?_mono hp
  case inr => exact hk.place?_eq ▸ hp

theorem Put.node?_attr (h : Put x (.attr key v) y) (hx : Sound x) (hp : p ∈ x.desk.place? a.1 a.2) :
    y.desk.node? a = some (if x.target? = some p.slot then
      { x.desk.node p with attrs := (x.desk.node p).attrs.set key v } else x.desk.node p) := by
  cases h
  case attr slot hc ht =>
    have hn : (x.putAttr slot key v).desk.node? a = some ((x.putAttr slot key v).desk.node p) := by
      rw [node?_eq]
      exact congrArg (Option.map _) hp
    rw [hn, putAttr, node_slots_modify (hx.valid.slot_lt hp), ht]
    simp
  case dropAttr h =>
    have ht : x.target? = none := h.elim hx.target id
    rw [node?_eq, Option.mem_def.mp hp, ht]
    rfl

end Steps

section History

theorem put_ofDrafts (ds : List Draft) (d : Draft) :
    Put (ofDrafts ds) d.finish (ofDrafts (ds ++ [d])) :=
  ofDrafts_concat ds d ▸ put_spec ..

theorem sound_ofDrafts (ds : List Draft) : Sound (ofDrafts ds) := by
  induction ds using List.reverseRecOn
  case nil                     => exact .empty
  case append_singleton ds d h => exact (put_ofDrafts ds d).sound h

theorem extends_or_no_card (ds : List Draft) (hd : d.line.mark ≠ .attr) :
    (∃ card k, Extends (ofDrafts ds) d.finish (ofDrafts (ds ++ [d])) card k) ∨
      (ofDrafts (ds ++ [d])).card? = none := by
  refine ((put_ofDrafts ds d).extends_or_keeps (sound_ofDrafts ds)).imp_right fun ⟨hk, h⟩ => ?_
  rcases h with hc | ⟨key, v, hs⟩
  case inl => rw [hk.card, hc]
  case inr => exact absurd (Draft.mark_of_finish_eq_attr hs) hd

theorem place?_ofDrafts_append (ds₂ : List Draft) (h : p ∈ (ofDrafts ds₁).desk.place? a.1 a.2) :
    p ∈ (ofDrafts (ds₁ ++ ds₂)).desk.place? a.1 a.2 := by
  induction ds₂ using List.reverseRecOn
  case nil => rwa [List.append_nil]
  case append_singleton ds d hi =>
    rw [← List.append_assoc]
    exact (put_ofDrafts _ d).place?_mono (sound_ofDrafts _) hi

-- The line puts the node on the desk.
def Puts (ds : List Draft) (d : Draft) (a : Spot) : Prop :=
  (ofDrafts ds).desk.node? a = none ∧ (ofDrafts (ds ++ [d])).desk.node? a ≠ none

-- The last header or data line, and the lines before it.
def Latest (ds ds₁ : List Draft) (d : Draft) : Prop :=
  d.line.mark ≠ .attr ∧ ∃ ds₂ : List Draft, (∀ e ∈ ds₂, e.line.mark = .attr) ∧ ds = ds₁ ++ d :: ds₂

def OfLatest (ds : List Draft) (a : Spot) : Prop :=
  ∃ ds₁ d, Latest ds ds₁ d ∧ Puts ds₁ d a

theorem not_latest_nil : ¬Latest [] ds₁ d := by
  rintro ⟨_, _, _, h⟩
  simp at h

theorem latest_concat_of_attr (hd : d.line.mark = .attr) :
    Latest (ds ++ [d]) ds₁ e ↔ Latest ds ds₁ e := by
  refine and_congr_right fun he => ⟨?mp, ?mpr⟩
  case mp =>
    rintro ⟨ds₂, h₂, h⟩
    cases ds₂ using List.reverseRecOn
    case nil =>
      have ⟨_, h⟩ := List.append_inj' h rfl
      exact absurd (List.singleton_inj.mp h ▸ hd) he
    case append_singleton ds₂ d' _ =>
      rw [← List.cons_append, ← List.append_assoc] at h
      exact ⟨ds₂, fun e he => h₂ e (List.mem_append_left _ he), (List.append_inj' h rfl).left⟩
  case mpr =>
    rintro ⟨ds₂, h₂, rfl⟩
    exact ⟨ds₂ ++ [d], List.forall_mem_append.mpr ⟨h₂, by simpa using hd⟩, by simp⟩

theorem latest_concat (hd : d.line.mark ≠ .attr) :
    Latest (ds ++ [d]) ds₁ e ↔ ds₁ = ds ∧ e = d := by
  constructor
  case mp =>
    rintro ⟨he, ds₂, h₂, h⟩
    cases ds₂ using List.reverseRecOn
    case nil =>
      have ⟨hds, h⟩ := List.append_inj' h rfl
      exact ⟨hds.symm, (List.singleton_inj.mp h).symm⟩
    case append_singleton ds₂ d' _ =>
      rw [← List.cons_append, ← List.append_assoc] at h
      have h := List.singleton_inj.mp (List.append_inj' h rfl).right
      exact absurd (h₂ d (h ▸ List.mem_concat_self)) hd
  case mpr =>
    rintro ⟨rfl, rfl⟩
    exact ⟨hd, [], List.forall_mem_nil _, rfl⟩

theorem ofLatest_concat_of_attr (hd : d.line.mark = .attr) :
    OfLatest (ds ++ [d]) a ↔ OfLatest ds a := by
  simp only [OfLatest, latest_concat_of_attr hd]

theorem ofLatest_concat (hd : d.line.mark ≠ .attr) : OfLatest (ds ++ [d]) a ↔ Puts ds d a := by
  simp [OfLatest, latest_concat hd]

theorem Puts.mark (h : Puts ds d a) : d.line.mark ≠ .attr := by
  intro hd
  have hp := put_ofDrafts ds d
  rw [Draft.finish_of_attr hd] at hp
  exact h.right (hp.keeps.node?_eq_none_iff.mpr h.left)

-- Every node is put on the desk once.
theorem Puts.ofLatest_iff (h : Puts ds₁ d a) :
    OfLatest (ds₁ ++ d :: ds₂) a ↔ ∀ e ∈ ds₂, e.line.mark = .attr := by
  induction ds₂ using List.reverseRecOn
  case nil => simpa using (ofLatest_concat h.mark).mpr h
  case append_singleton ds e hi =>
    rw [← List.cons_append, ← List.append_assoc]
    by_cases he : e.line.mark = .attr
    case pos =>
      rw [ofLatest_concat_of_attr he, hi]
      simp [or_imp, forall_and, he]
    case neg =>
      obtain ⟨p, hp⟩ := Option.ne_none_iff_exists'.mp (mt node?_eq_none_iff.mpr h.right)
      have hp := place?_ofDrafts_append ds hp
      rw [List.append_assoc, List.singleton_append] at hp
      have hn : ¬Puts (ds₁ ++ d :: ds) e a := fun he => by
        simp [node?_eq_none_iff.mp he.left] at hp
      rw [ofLatest_concat he]
      exact iff_of_false hn fun h => he (h e List.mem_concat_self)

end History

section Aim

-- The target of a scan behind the lines that have been finished. The current card is the last one, and
-- what the last header or data line has put on the desk is the end of it.
structure Aimed (x : Scan) (ds : List Draft) : Prop where
  current : x.card?.elim 0 (· + 1) = x.desk.cards.length
  last    : ∀ slot ∈ x.target?, ∃ card ∈ x.card?, ∃ c ∈ x.desk.cards[card]?,
    ∃ i ∈ c.nodes.getLast?, (x.desk.place i).slot = slot
  holders : ∀ a : Spot, ∀ p ∈ x.desk.place? a.1 a.2, x.target? = some p.slot ↔ OfLatest ds a
  ends    : ∃ k, ∀ a, OfLatest ds a ↔ some a.1 = x.card? ∧ k ≤ a.2 ∧ x.desk.node? a ≠ none
  absent  : x.target? = none ↔ x.card? = none ∨ ∃ ds₁ d, Latest ds ds₁ d ∧
    d.line.mark = .data ∧ d.line.sep ≠ [] ∧ ∀ a, ¬Puts ds₁ d a

-- Above the first header nothing comes on the desk.
theorem Sound.aimed_of_no_card (hx : Sound x) (hc : x.card? = none) (hl : ∀ a, ¬OfLatest ds a) :
    Aimed x ds where
  current := hx.current
  last    := by simp [hx.target hc]
  holders := by simp [hx.place?_eq_none hc]
  ends    := ⟨0, by simp [hl, hc]⟩
  absent  := iff_of_true (hx.target hc) (.inl hc)

theorem Aimed.put_attr (h : Aimed x ds) (hk : Keeps x y) (hd : d.line.mark = .attr) :
    Aimed y (ds ++ [d]) := by
  have hn (a : Spot) : y.desk.node? a = none ↔ x.desk.node? a = none := hk.node?_eq_none_iff
  constructor
  case current => rw [hk.card, hk.cards, h.current]
  case last    => simpa only [hk.target, hk.card, hk.cards, hk.place_eq] using h.last
  case holders => simpa only [hk.target, hk.place?_eq, ofLatest_concat_of_attr hd] using h.holders
  case ends    => simpa only [hk.card, ne_eq, hn, ofLatest_concat_of_attr hd] using h.ends
  case absent  => simpa only [hk.target, hk.card, latest_concat_of_attr hd] using h.absent

theorem Extends.new_iff (h : Extends x s y card k) :
    x.desk.node? a = none ∧ y.desk.node? a ≠ none ↔
      some a.1 = y.card? ∧ k ≤ a.2 ∧ y.desk.node? a ≠ none := by
  rw [h.current, Option.some_inj, ← and_assoc]
  refine and_congr_left fun hy => ⟨fun hx => ?_, fun ⟨hc, hk⟩ => ?_⟩
  case refine_1 =>
    by_contra hn
    rw [ne_eq, node?_eq_none_iff, h.place, if_neg hn, ← node?_eq_none_iff] at hy
    exact hy hx
  case refine_2 => exact node?_eq_none_iff.mpr (hc ▸ h.free a.2 hk)

theorem Extends.target_eq_some_iff (h : Extends x s y card k) (hx : Sound x)
    (hp : p ∈ y.desk.place? a.1 a.2) : y.target? = some p.slot ↔ x.desk.place? a.1 a.2 = none := by
  rw [h.place] at hp
  split at hp
  case isTrue ha =>
    have hm := List.mem_of_getElem? hp
    refine iff_of_true ?_ (ha.left ▸ h.free a.2 ha.right)
    rw [h.target, if_neg (List.ne_nil_of_mem hm), s.slot_of_mem_places hm]
  case isFalse =>
    have := hx.valid.slot_lt hp
    refine iff_of_false (fun ht => ?_) (by simp [Option.mem_def.mp hp])
    rw [h.target, Option.ite_none_left_eq_some] at ht
    have := Option.some.inj ht.right
    omega

-- There is no target exactly if no node has come.
theorem Extends.target_eq_none_iff (h : Extends x s y card k) :
    y.target? = none ↔ ∀ a : Spot, ¬(x.desk.node? a = none ∧ y.desk.node? a ≠ none) := by
  simp only [h.new_iff, h.current, h.target, Option.some_inj]
  simp only [ne_eq, node?_eq_none_iff, h.place]
  cases hs : s.places x.desk.slots.length
  case nil =>
    refine iff_of_true rfl fun a ⟨hc, hk, hn⟩ => hn ?_
    rw [if_pos ⟨hc, hk⟩]
    rfl
  case cons p ps =>
    refine iff_of_false (by simp) fun hn => hn (card, k) ⟨rfl, Nat.le_refl k, ?_⟩
    simp

theorem Extends.last_slot (h : Extends x s y card k) (ht : slot ∈ y.target?) :
    ∃ c ∈ y.desk.cards[card]?, ∃ i ∈ c.nodes.getLast?, (y.desk.place i).slot = slot := by
  have ht := Option.mem_def.mp ht
  rw [h.target, Option.ite_none_left_eq_some] at ht
  obtain ⟨hs, rfl⟩ := ht.imp_right Option.some.inj
  obtain ⟨c, hc⟩ : ∃ c, y.desk.cards[card]? = some c :=
    ⟨_, List.getElem?_eq_getElem (by rw [h.last]; exact Nat.lt_succ_self card)⟩
  have hp (i : Nat) (hi : k ≤ i) :
      c.nodes[i]?.map y.desk.place = (s.places x.desk.slots.length)[i - k]? := by
    have := h.place (card, i)
    rw [if_pos ⟨rfl, hi⟩] at this
    simpa [Desk.place?, Desk.number?, hc] using this
  have hk : k < c.nodes.length := by
    have := hp k (Nat.le_refl k)
    rw [Nat.sub_self, List.getElem?_eq_getElem (List.length_pos_iff.mpr hs)] at this
    obtain ⟨i, hi, _⟩ := Option.map_eq_some_iff.mp this
    exact (List.getElem?_eq_some_iff.mp hi).choose
  obtain ⟨i, hl⟩ : ∃ i, c.nodes.getLast? = some i := ⟨_, List.getLast?_cons⟩
  have hi := hp _ (Nat.le_sub_one_of_lt hk)
  rw [← List.getLast?_eq_getElem?, hl] at hi
  exact ⟨c, hc, i, hl, s.slot_of_mem_places (List.mem_of_getElem? hi.symm)⟩

theorem Extends.aimed (h : Extends (ofDrafts ds) d.finish (ofDrafts (ds ++ [d])) card k)
    (hd : d.line.mark ≠ .attr) : Aimed (ofDrafts (ds ++ [d])) (ds ++ [d]) where
  current := (sound_ofDrafts _).current
  last    := fun slot ht => ⟨card, h.current, h.last_slot ht⟩
  holders := by
    intro a p hp
    rw [ofLatest_concat hd, h.target_eq_some_iff (sound_ofDrafts ds) hp, Puts, node?_eq_none_iff,
      ne_eq, node?_eq_none_iff]
    simp [Option.mem_def.mp hp]
  ends    := ⟨k, fun a => (ofLatest_concat hd).trans h.new_iff⟩
  absent  := by
    simp only [latest_concat hd, h.current, reduceCtorEq, false_or]
    constructor
    case mp =>
      intro ht
      have hs : d.finish.places (ofDrafts ds).desk.slots.length = [] := by simpa [h.target] using ht
      have ⟨hm, hs⟩ := Draft.multiple_of_places_eq_nil hd hs
      exact ⟨ds, d, ⟨rfl, rfl⟩, hm, hs, h.target_eq_none_iff.mp ht⟩
    case mpr =>
      rintro ⟨_, _, ⟨rfl, rfl⟩, _, _, hn⟩
      exact h.target_eq_none_iff.mpr hn

-- An attribute leaves the places as they are, and any other line extends the last card or has no header
-- above it.
theorem aimed_ofDrafts (ds : List Draft) : Aimed (ofDrafts ds) ds := by
  induction ds using List.reverseRecOn
  case nil =>
    refine Sound.empty.aimed_of_no_card rfl fun a => ?_
    rintro ⟨_, _, h, _⟩
    exact not_latest_nil h
  case append_singleton ds d hi =>
    have hp := put_ofDrafts ds d
    by_cases hd : d.line.mark = .attr
    case pos => exact hi.put_attr (Draft.finish_of_attr hd ▸ hp).keeps hd
    case neg =>
      rcases extends_or_no_card ds hd with ⟨card, k, he⟩ | hc
      case inl => exact he.aimed hd
      case inr =>
        have hx := sound_ofDrafts (ds ++ [d])
        refine hx.aimed_of_no_card hc fun a ha => ?_
        exact ((ofLatest_concat hd).mp ha).right (node?_eq_none_iff.mpr (hx.place?_eq_none hc))

end Aim

section Attributes

theorem Aimed.node?_put_attr (h : Aimed x ds) (hx : Sound x) (hd : d.line.mark = .attr) (a : Spot) :
    (OfLatest ds a → (x.put d.finish).desk.node? a =
      (x.desk.node? a).map fun n => { n with attrs := n.attrs.set d.line.key d.value }) ∧
    (¬OfLatest ds a → (x.put d.finish).desk.node? a = x.desk.node? a) := by
  have hp := x.put_spec d.finish
  rw [Draft.finish_of_attr hd] at hp ⊢
  cases hpl : x.desk.place? a.1 a.2
  case none =>
    have hn : x.desk.node? a = none := node?_eq_none_iff.mpr hpl
    have hy : (x.put (.attr d.line.key d.value)).desk.node? a = none := by
      rw [hp.keeps.node?_eq_none_iff, hn]
    simp [hn, hy]
  case some p =>
    have hn : x.desk.node? a = some (x.desk.node p) := by rw [Desk.node?_eq, hpl]; rfl
    rw [hp.node?_attr hx hpl, hn]
    exact ⟨fun hl => by rw [if_pos ((h.holders a p hpl).mpr hl)]; rfl,
      fun hl => by rw [if_neg (mt (h.holders a p hpl).mp hl)]⟩

-- The attributes that are assigned by the lines at the beginning.
def assigned (ds : List Draft) : List (Text × Value) :=
  (ds.takeWhile (·.line.mark = .attr)).map fun d => (d.line.key, d.value)

theorem assigned_concat (h : ∀ e ∈ ds, e.line.mark = .attr) (hd : d.line.mark = .attr) :
    assigned (ds ++ [d]) = assigned ds ++ [(d.line.key, d.value)] := by
  have ht : ds.takeWhile (·.line.mark = .attr) = ds :=
    List.takeWhile_eq_self_iff.mpr fun e he => decide_eq_true (h e he)
  simp [assigned, List.takeWhile_append, ht, hd]

theorem assigned_concat_of_not (h : ¬((∀ e ∈ ds, e.line.mark = .attr) ∧ d.line.mark = .attr)) :
    assigned (ds ++ [d]) = assigned ds := by
  rw [assigned, assigned, List.takeWhile_append]
  split
  case isFalse => rfl
  case isTrue hl =>
    have ht := (List.takeWhile_prefix _).eq_of_length hl
    have hd : d.line.mark ≠ .attr := by
      refine fun hd => h ⟨fun e he => ?_, hd⟩
      simpa using List.takeWhile_eq_self_iff.mp ht e he
    simp [ht, hd]

theorem Extends.node?_eq (h : Extends x s y card k) (hx : Sound x) (hp : p ∈ x.desk.place? a.1 a.2) :
    y.desk.node? a = x.desk.node? a := by
  have hn : y.desk.node p = x.desk.node p := by
    simp [node, h.slots, List.getElem?_append_left (hx.valid.slot_lt hp)]
  rw [Desk.node?_eq, Desk.node?_eq, Option.mem_def.mp hp, Option.mem_def.mp (h.place?_mono hp)]
  exact congrArg some hn

theorem Extends.attrs_eq_nil (h : Extends x s y card k) {n : Node} (hx : x.desk.node? a = none)
    (hn : n ∈ y.desk.node? a) : n.attrs = [] := by
  rw [Desk.node?_eq, h.place] at hn
  split at hn
  case isTrue =>
    obtain ⟨p, hp, rfl⟩ := Option.map_eq_some_iff.mp hn
    have hs := s.slot_of_mem_places (List.mem_of_getElem? hp)
    simp [node, h.slots, hs]
  case isFalse => simp [node?_eq_none_iff.mp hx] at hn

-- The attributes of the node are those of the lines right below the line that has put it on the desk.
def Traced (ds : List Draft) (a : Spot) (n : Node) : Prop :=
  ∃ ds₁ d ds₂, ds = ds₁ ++ d :: ds₂ ∧ Puts ds₁ d a ∧ n.attrs = .ofPairs (assigned ds₂)

theorem Traced.concat_attr {n : Node} (h : Traced ds a n) (hl : OfLatest ds a)
    (hd : d.line.mark = .attr) :
    Traced (ds ++ [d]) a { n with attrs := n.attrs.set d.line.key d.value } := by
  obtain ⟨ds₁, e, ds₂, rfl, he, hn⟩ := h
  refine ⟨ds₁, e, ds₂ ++ [d], by simp, he, ?_⟩
  rw [assigned_concat (he.ofLatest_iff.mp hl) hd, Attrs.ofPairs_concat, hn]

theorem Traced.concat {n : Node} (h : Traced ds a n) (hd : ¬(OfLatest ds a ∧ d.line.mark = .attr)) :
    Traced (ds ++ [d]) a n := by
  obtain ⟨ds₁, e, ds₂, rfl, he, hn⟩ := h
  rw [he.ofLatest_iff] at hd
  exact ⟨ds₁, e, ds₂ ++ [d], by simp, he, by rw [assigned_concat_of_not hd, hn]⟩

theorem traced_ofDrafts {n : Node} (hn : n ∈ (ofDrafts ds).desk.node? a) : Traced ds a n := by
  induction ds using List.reverseRecOn generalizing n
  case nil =>
    have ⟨p, hp, _⟩ := exists_place_of_node hn
    have := (sound_ofDrafts []).place?_eq_none (a := a) rfl
    simp [this] at hp
  case append_singleton ds d hi =>
    have hx := sound_ofDrafts ds
    by_cases hd : d.line.mark = .attr
    case pos =>
      have ⟨ht, hf⟩ := (aimed_ofDrafts ds).node?_put_attr hx hd a
      rw [ofDrafts_concat] at hn
      by_cases hl : OfLatest ds a
      case pos =>
        obtain ⟨m, hm, rfl⟩ := Option.map_eq_some_iff.mp ((ht hl).symm.trans hn)
        exact (hi hm).concat_attr hl hd
      case neg => exact (hi ((hf hl).symm.trans hn)).concat (hl ·.left)
    case neg =>
      rcases extends_or_no_card ds hd with ⟨card, k, he⟩ | hc
      case inr =>
        have ⟨p, hp, _⟩ := exists_place_of_node hn
        simp [(sound_ofDrafts (ds ++ [d])).place?_eq_none hc] at hp
      case inl =>
        cases hm : (ofDrafts ds).desk.node? a
        case none =>
          have hn' : (ofDrafts (ds ++ [d])).desk.node? a ≠ none := by simp [Option.mem_def.mp hn]
          exact ⟨ds, d, [], rfl, ⟨hm, hn'⟩, he.attrs_eq_nil hm hn⟩
        case some m =>
          have ⟨p, hp, _⟩ := exists_place_of_node hm
          exact (hi ((he.node?_eq hx hp).symm.trans hn)).concat (hd ·.right)

-- What a line that assigns an attribute can do to the nodes, and what it has done to them so far.
structure Confined (x : Scan) (ds : List Draft) : Prop where
  latest  : ∀ d : Draft, d.line.mark = .attr → ∀ a, OfLatest ds a → (x.put d.finish).desk.node? a =
    (x.desk.node? a).map fun n => { n with attrs := n.attrs.set d.line.key d.value }
  others  : ∀ d : Draft, d.line.mark = .attr → ∀ a, ¬OfLatest ds a →
    (x.put d.finish).desk.node? a = x.desk.node? a
  earlier : ∀ d : Draft, d.line.mark = .attr → ∀ a : Spot, some a.1 ≠ x.card? ∨
    (∃ ds₁ d₁ ds₂, ds = ds₁ ++ d₁ :: ds₂ ∧ Puts ds₁ d₁ a ∧ ∃ d₂ ∈ ds₂, d₂.line.mark ≠ .attr) →
    (x.put d.finish).desk.node? a = x.desk.node? a
  attrs   : ∀ a, ∀ n ∈ x.desk.node? a, ∃ ds₁ d ds₂, ds = ds₁ ++ d :: ds₂ ∧ Puts ds₁ d a ∧
    n.attrs.Assigned (assigned ds₂)

theorem confined_ofDrafts (ds : List Draft) : Confined (ofDrafts ds) ds := by
  have ha := aimed_ofDrafts ds
  have hp {d : Draft} (hd : d.line.mark = .attr) := ha.node?_put_attr (sound_ofDrafts ds) hd
  refine ⟨fun d hd a => (hp hd a).left, fun d hd a => (hp hd a).right, ?earlier, ?attrs⟩
  case earlier =>
    intro d hd a h
    refine (hp hd a).right fun hl => ?_
    rcases h with hc | ⟨ds₁, d₁, ds₂, rfl, h, d₂, hm, hn⟩
    case inl =>
      obtain ⟨k, he⟩ := ha.ends
      exact hc ((he a).mp hl).left
    case inr => exact hn (h.ofLatest_iff.mp hl d₂ hm)
  case attrs =>
    intro a n hn
    obtain ⟨ds₁, d, ds₂, hds, h, has⟩ := traced_ofDrafts hn
    exact ⟨ds₁, d, ds₂, hds, h, has ▸ Attrs.assigned_ofPairs _⟩

end Attributes

section Texts

theorem Aimed.withDraft (h : Aimed x ds) (d? : Option Draft) : Aimed { x with draft? := d? } ds :=
  ⟨h.current, h.last, h.holders, h.ends, h.absent⟩

theorem Confined.withDraft (h : Confined x ds) (d? : Option Draft) :
    Confined { x with draft? := d? } ds := by
  have hp (d : Draft) : ({ x with draft? := d? }.put d.finish).desk = (x.put d.finish).desk := by
    rw [((x.put_spec d.finish).withDraft d?).eq]
  refine ⟨?latest, ?others, ?earlier, h.attrs⟩
  case latest  => simpa only [hp] using h.latest
  case others  => simpa only [hp] using h.others
  case earlier => simpa only [hp] using h.earlier

-- Behind every line of a text the target belongs to the nodes that the last header or data line has put
-- on the desk, and attributes go to these nodes only.
theorem target_belongs_to_latest (s : Text) :
    (∀ n, let ls := s.lines.take n
      Aimed (ofLines ls) (Draft.finished none ls) ∧ Confined (ofLines ls) (Draft.finished none ls)) ∧
    (Aimed (ofText s) (Draft.ofText s) ∧ Confined (ofText s) (Draft.ofText s)) ∧
    (ofText s).desk.memos = Memo.ofText s ∧
    (ofText s).desk.layout = (({} : Desk).putRecords (Sheet.ofText s)).layout := by
  refine ⟨fun n => ?lines, ?text, memos_ofText s, layout_ofText s⟩
  case lines =>
    simp only [ofLines_eq]
    exact ⟨(aimed_ofDrafts _).withDraft _, (confined_ofDrafts _).withDraft _⟩
  case text =>
    rw [ofText_eq]
    exact ⟨aimed_ofDrafts _, confined_ofDrafts _⟩

example :
    let x := ofText "@a x\n.k, p, q\n+u m\n.j, ,\n+v n".toList
    x.target? = none ∧ x.desk.memos.flatMap (·.nodes.map (·.attrs.map (·.1))) =
      [[], ["u".toList], ["u".toList]] := by decide +kernel

end Texts

end Scan
end MemoBase
