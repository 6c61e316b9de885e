import Mathlib.Data.List.Basic
import MemoBase.Desk.Basic

namespace MemoBase

theorem Memo.nodes_inj {m m' : Memo} (h : m.nodes = m'.nodes) : m = m' := by
  cases m
  cases m'
  simpa [nodes] using h

namespace Desk

-- A card and a position on it.
abbrev Spot :=
  Nat × Nat

def at? {α : Type} (rows : List (List α)) (a : Spot) : Option α := do
  (← rows[a.1]?)[a.2]?

def node? (d : Desk) (a : Spot) : Option Node :=
  at? (d.memos.map Memo.nodes) a

section Rows

variable {α β : Type} {rows : List (List α)} {row : List α} {a : Spot} {x : α}

theorem getElem?_concat (row : List α) (x : α) (i : Nat) :
    (row ++ [x])[i]? = if i = row.length then some x else row[i]? := by
  rcases Nat.lt_trichotomy i row.length with h | h | h
  case inl     => simp [List.getElem?_append_left h, Nat.ne_of_lt h]
  case inr.inl => simp [h]
  case inr.inr =>
    have : (row ++ [x])[i]? = none := List.getElem?_eq_none (by simpa using Nat.succ_le_of_lt h)
    simp [this, Nat.ne_of_gt h, Nat.le_of_lt h]

theorem modify_concat (l : List α) (x : α) (f : α → α) :
    (l ++ [x]).modify l.length f = l ++ [f x] :=
  List.modifyTailIdx_add _ 0 l [x]

theorem map_modify {f : α → β} {g : α → α} {h : β → β} (hf : ∀ x, f (g x) = h (f x))
    (l : List α) (i : Nat) : (l.modify i g).map f = (l.map f).modify i h := by
  induction l generalizing i
  case nil => simp
  case cons x l hi => cases i <;> simp [hf, hi]

theorem forall_mem_modify {l : List α} {f : α → α} {P : α → Prop} (i : Nat) (h : ∀ x ∈ l, P x)
    (hf : ∀ x ∈ l, P (f x)) : ∀ x ∈ l.modify i f, P x := by
  intro x hx
  obtain ⟨j, hj⟩ := List.getElem?_of_mem hx
  rw [List.getElem?_modify] at hj
  obtain ⟨y, hy, rfl⟩ := Option.map_eq_some_iff.mp hj
  have hm := List.mem_of_getElem? hy
  split
  case isTrue  => exact hf y hm
  case isFalse => exact h y hm

theorem at?_map (f : α → β) (rows : List (List α)) (a : Spot) :
    at? (rows.map (List.map f)) a = (at? rows a).map f := by
  cases h : rows[a.1]? <;> simp [at?, h]

theorem at?_concat :
    at? (rows ++ [row]) a = if a.1 = rows.length then row[a.2]? else at? rows a := by
  simp only [at?, getElem?_concat]
  split <;> rfl

theorem at?_modify_append {row' : List α} {card : Nat} (h : rows[card]? = some row) :
    at? (rows.modify card (· ++ row')) a =
      if a.1 = card ∧ row.length ≤ a.2 then row'[a.2 - row.length]? else at? rows a := by
  obtain ⟨c, q⟩ := a
  by_cases hc : c = card
  case neg => simp [at?, hc, Ne.symm hc]
  case pos =>
    subst hc
    by_cases hq : row.length ≤ q
    case pos => simp [at?, h, hq, List.getElem?_append_right hq]
    case neg => simp [at?, h, hq, List.getElem?_append_left (Nat.lt_of_not_le hq)]

end Rows

section Numbers

variable {d : Desk} {a : Spot} {i : Nat} {p : Place}

theorem number?_eq : d.number? a.1 a.2 = at? (d.cards.map Card.nodes) a := by
  simp only [number?, at?, List.getElem?_map]
  cases d.cards[a.1]? <;> rfl

theorem place_eq (h : p ∈ d.places[i]?) : d.place i = p := by
  rw [place, List.getD_eq_getElem?_getD, Option.mem_def.mp h, Option.getD_some]

theorem node?_eq_map : d.node? a = (d.number? a.1 a.2).map d.nodeAt := by
  have hn : d.memos.map Memo.nodes = (d.cards.map Card.nodes).map (List.map d.nodeAt) := by
    rw [memos, List.map_map, List.map_map]
    rfl
  rw [node?, hn, at?_map, number?_eq]

theorem node?_eq : d.node? a = (d.place? a.1 a.2).map d.node := by
  rw [node?_eq_map, place?, Option.map_map]
  rfl

theorem node?_eq_none_iff : d.node? a = none ↔ d.place? a.1 a.2 = none := by
  simp [node?_eq]

theorem exists_place_of_node {n : Node} (h : n ∈ d.node? a) :
    ∃ p, d.place? a.1 a.2 = some p ∧ d.node p = n := by
  rw [node?_eq] at h
  exact Option.map_eq_some_iff.mp h

theorem node_slots_modify {slot : Nat} {f : Attrs → Attrs} (h : p.slot < d.slots.length) :
    ({ d with slots := d.slots.modify slot f } : Desk).node p =
      if slot = p.slot then { d.node p with attrs := f (d.node p).attrs } else d.node p := by
  simp only [node, List.getD_eq_getElem?_getD, List.getElem?_modify, List.getElem?_eq_getElem h]
  split <;> simp_all

theorem exists_card_of_number (h : i ∈ d.number? a.1 a.2) : ∃ c ∈ d.cards, i ∈ c.nodes := by
  obtain ⟨c, hc, hi⟩ := Option.bind_eq_some_iff.mp h
  exact ⟨c, List.mem_of_getElem? hc, List.mem_of_getElem? hi⟩

theorem place?_range' {d' : Desk} (ps : List Place) (hp : d'.places = d.places ++ ps)
    (hn : d'.number? a.1 a.2 = (List.range' d.places.length ps.length)[i]?) :
    d'.place? a.1 a.2 = ps[i]? := by
  rw [place?, hn]
  by_cases hi : i < ps.length
  case pos => simp [hi, place, hp]
  case neg => simp [Nat.le_of_not_lt hi]

end Numbers

-- Cards refer to places, and places refer to slots.
structure Valid (d : Desk) : Prop where
  numbers : ∀ c ∈ d.cards, ∀ i ∈ c.nodes, i < d.places.length
  slots   : ∀ p ∈ d.places, p.slot < d.slots.length

namespace Valid

variable {d : Desk} {a : Spot} {i : Nat} {p : Place}

theorem nil : Valid {} where
  numbers := fun _ h => absurd h List.not_mem_nil
  slots   := fun _ h => absurd h List.not_mem_nil

theorem number_lt (hd : d.Valid) (h : i ∈ d.number? a.1 a.2) : i < d.places.length := by
  obtain ⟨c, hc, hi⟩ := exists_card_of_number h
  exact hd.numbers c hc i hi

theorem place_mem (hd : d.Valid) (h : i ∈ d.number? a.1 a.2) : d.place i ∈ d.places[i]? := by
  have hp := List.getElem?_eq_getElem (hd.number_lt h)
  rw [place_eq hp]
  exact hp

theorem slot_place_lt (hd : d.Valid) (hi : i < d.places.length) :
    (d.place i).slot < d.slots.length := by
  have hp := List.getElem?_eq_getElem hi
  rw [place_eq hp]
  exact hd.slots _ (List.mem_of_getElem? hp)

theorem slot_lt (hd : d.Valid) (h : p ∈ d.place? a.1 a.2) : p.slot < d.slots.length := by
  obtain ⟨i, hi, rfl⟩ := Option.map_eq_some_iff.mp h
  exact hd.slot_place_lt (hd.number_lt hi)

-- What is put behind the places and the slots leaves the nodes as they are.
theorem nodeAt_append (hd : d.Valid) (hi : i < d.places.length) (cards : List Card) (ps : List Place)
    (slots : List Attrs) :
    ({ cards, places := d.places ++ ps, slots := d.slots ++ slots } : Desk).nodeAt i = d.nodeAt i := by
  have hs := hd.slot_place_lt hi
  have hp : ({ cards, places := d.places ++ ps, slots := d.slots ++ slots } : Desk).place i =
      d.place i := by
    simp [place, List.getElem?_append_left hi]
  rw [nodeAt, nodeAt, hp]
  simp [node, List.getElem?_append_left hs]

theorem place?_of_number?_eq (hd : d.Valid) {d' : Desk} (ps : List Place)
    (hp : d'.places = d.places ++ ps) (hn : d'.number? a.1 a.2 = d.number? a.1 a.2) :
    d'.place? a.1 a.2 = d.place? a.1 a.2 := by
  rw [place?, place?, hn]
  refine Option.map_congr fun i hi => ?_
  simp [place, hp, List.getElem?_append_left (hd.number_lt hi)]

theorem memo_append (hd : d.Valid) {c : Card} (hc : c ∈ d.cards) (cards : List Card)
    (ps : List Place) (slots : List Attrs) :
    ({ cards, places := d.places ++ ps, slots := d.slots ++ slots } : Desk).memo c = d.memo c := by
  apply Memo.nodes_inj
  exact List.map_congr_left fun i hi => hd.nodeAt_append (hd.numbers c hc i hi) cards ps slots

end Valid

section Records

variable {d : Desk}

theorem length_places (r : Record) (n : Nat) :
    (r.places n).length = (r.entries.flatMap (·.values)).length + 1 := by
  have hs : r.entries = (r.entries.zipIdx (n + 1)).map Prod.fst := by simp
  conv_rhs => rw [hs, List.flatMap_map]
  simp [Record.places, List.length_flatMap]

-- The slots from `n` on are those of the header and of the entries.
theorem slot_of_mem_places {r : Record} {n : Nat} {p : Place} (h : p ∈ r.places n) :
    n ≤ p.slot ∧ p.slot < n + (r.entries.length + 1) := by
  cases List.mem_cons.mp h
  case inl h => simp [h]
  case inr h =>
    obtain ⟨e, he, hp⟩ := List.mem_flatMap.mp h
    obtain ⟨v, _, rfl⟩ := List.mem_map.mp hp
    have hl := (List.mem_zipIdx he)
    dsimp only
    omega

theorem putRecord_nodes (d : Desk) (r : Record) :
    (d.putRecord r).cards.map Card.nodes =
      d.cards.map Card.nodes ++ [List.range' d.places.length (r.places d.slots.length).length] := by
  simp [putRecord, Card.nodes, length_places, List.range'_succ]

-- New nodes are those of the places behind the others.
theorem map_nodeAt_range' (ps qs : List Place) (cards : List Card) (slots : List Attrs) :
    (List.range' ps.length qs.length).map ({ cards, places := ps ++ qs, slots } : Desk).nodeAt =
      qs.map ({ cards, places := ps ++ qs, slots } : Desk).node := by
  apply List.ext_getElem?
  intro i
  rw [List.getElem?_map, List.getElem?_map]
  by_cases hi : i < qs.length
  case pos => simp [hi, nodeAt, place]
  case neg => simp [Nat.le_of_not_lt hi]

theorem map_node_places (d : Desk) (r : Record) :
    (r.places d.slots.length).map (d.putRecord r).node = r.memo.nodes := by
  have hh : (d.putRecord r).node ⟨r.collection, r.title, d.slots.length⟩ = r.memo.header := by
    simp [node, putRecord, Record.memo]
  have hs : r.entries = (r.entries.zipIdx (d.slots.length + 1)).map Prod.fst := by simp
  have hd : r.memo.data = r.entries.flatMap Entry.nodes := rfl
  rw [Record.places, List.map_cons, hh, Memo.nodes, hd]
  refine congrArg (r.memo.header :: ·) ?_
  conv_rhs => rw [hs, List.flatMap_map]
  rw [List.map_flatMap]
  refine List.flatMap_congr fun e he => ?_
  obtain ⟨hl, he⟩ := List.mem_zipIdx_iff_le_and_getElem?_sub.mp he
  obtain ⟨i, hi⟩ := Nat.exists_eq_add_of_le hl
  have hs : e.2 - d.slots.length = i + 1 := by omega
  simp only [hi, Nat.add_sub_cancel_left] at he
  simp [Entry.nodes, node, putRecord, List.getElem?_append_right (Nat.le_of_succ_le hl), hs, he]

namespace Valid

theorem putRecord (hd : d.Valid) (r : Record) : (d.putRecord r).Valid where
  numbers := by
    have hl : (d.putRecord r).places.length = d.places.length + (r.places d.slots.length).length :=
      List.length_append
    refine List.forall_mem_append.mpr ⟨fun c hc i hi => ?_, List.forall_mem_singleton.mpr ?_⟩
    case refine_1 =>
      have := hd.numbers c hc i hi
      omega
    case refine_2 =>
      intro i hi
      rw [length_places] at hl
      simp only [Card.nodes, List.mem_cons, List.mem_range'_1] at hi
      omega
  slots := by
    have hl : (d.putRecord r).slots.length = d.slots.length + (r.entries.length + 1) := by
      simp [Desk.putRecord]
    refine List.forall_mem_append.mpr ⟨fun p hp => ?_, fun p hp => ?_⟩
    case refine_1 =>
      have := hd.slots p hp
      omega
    case refine_2 =>
      have := slot_of_mem_places hp
      omega

theorem putRecords (hd : d.Valid) (rs : List Record) : (d.putRecords rs).Valid := by
  induction rs generalizing d
  case nil          => exact hd
  case cons r rs hi => exact hi (hd.putRecord r)

theorem memos_putRecord (hd : d.Valid) (r : Record) :
    (d.putRecord r).memos = d.memos ++ [r.memo] := by
  have hc : ∀ c ∈ d.cards, (d.putRecord r).memo c = d.memo c :=
    fun c hc => hd.memo_append hc _ _ _
  rw [memos, Desk.putRecord, List.map_append, List.map_singleton]
  refine congrArg₂ (· ++ [·]) (List.map_congr_left hc) (Memo.nodes_inj ?_)
  rw [← map_node_places d r]
  refine Eq.trans ?_ (map_nodeAt_range' d.places (r.places d.slots.length) _ _)
  rw [length_places]
  rfl

theorem memos_putRecords (hd : d.Valid) (rs : List Record) :
    (d.putRecords rs).memos = d.memos ++ rs.map Record.memo := by
  induction rs generalizing d
  case nil => exact (List.append_nil _).symm
  case cons r rs hi =>
    have := hi (hd.putRecord r)
    rwa [hd.memos_putRecord, List.append_assoc] at this

theorem memos_putMemo (hd : d.Valid) (m : Memo) : (d.putMemo m).memos = d.memos ++ [m] := by
  have hm : m.record.memo = m := by
    simp [Record.memo, Memo.record, Entry.nodes, List.flatMap_map]
  rw [putMemo, hd.memos_putRecord, hm]

end Valid
end Records

section Changes

variable {d : Desk} {a b : Spot} {i j : Nat}

theorem Card.nodes_append (is : List Nat) (c : Card) : (c.append is).nodes = c.nodes ++ is :=
  rfl

theorem memo_push (d : Desk) (i : Nat) (c : Card) :
    d.memo (c.append [i]) = (d.memo c).push (d.nodeAt i) := by
  simp [memo, Memo.push, Card.append]

theorem memos_pushSame (d : Desk) (card : Nat) (a : Spot) :
    (d.pushSame card a.1 a.2).memos =
      (d.node? a).elim d.memos fun n => d.memos.modify card (·.push n) := by
  rw [pushSame, node?_eq_map]
  cases d.number? a.1 a.2
  case none   => rfl
  case some i => exact map_modify (memo_push d i) d.cards card

namespace Valid

theorem numbers_append (hd : d.Valid) (card : Nat) {is : List Nat} {n : Nat}
    (hn : d.places.length ≤ n) (hi : ∀ i ∈ is, i < n) :
    ∀ c ∈ d.cards.modify card (·.append is), ∀ i ∈ c.nodes, i < n := by
  have ho : ∀ c ∈ d.cards, ∀ i ∈ c.nodes, i < n :=
    fun c hc i hi => Nat.lt_of_lt_of_le (hd.numbers c hc i hi) hn
  refine forall_mem_modify card ho fun c hc => ?_
  rw [c.nodes_append]
  exact List.forall_mem_append.mpr ⟨ho c hc, hi⟩

theorem push (hd : d.Valid) (card : Nat) (n : Node) : (d.push card n).Valid where
  numbers := by
    have hl : (d.push card n).places.length = d.places.length + 1 := List.length_append
    rw [hl]
    exact hd.numbers_append card (Nat.le_succ _) (by simp)
  slots := by
    have hl : (d.push card n).slots.length = d.slots.length + 1 := List.length_append
    refine List.forall_mem_append.mpr ⟨fun p hp => ?_, List.forall_mem_singleton.mpr ?_⟩
    case refine_1 =>
      have := hd.slots p hp
      omega
    case refine_2 => exact hl ▸ Nat.lt_succ_self _

theorem pushSame (hd : d.Valid) (card : Nat) (a : Spot) : (d.pushSame card a.1 a.2).Valid := by
  rw [Desk.pushSame]
  split
  case h_2 => exact hd
  case h_1 i hi =>
    refine ⟨hd.numbers_append card (Nat.le_refl _) ?_, hd.slots⟩
    exact List.forall_mem_singleton.mpr (hd.number_lt hi)

theorem setAttr (hd : d.Valid) (a : Spot) (key : Text) (v : Value) :
    (d.setAttr a.1 a.2 key v).Valid := by
  rw [Desk.setAttr]
  split
  case h_2 => exact hd
  case h_1 p _ =>
    refine ⟨hd.numbers, fun q hq => ?_⟩
    rw [List.length_modify]
    exact hd.slots q hq

theorem setAttrs (hd : d.Valid) (a : Spot) (as : List (Text × Value)) :
    (d.setAttrs a.1 a.2 as).Valid := by
  rw [Desk.setAttrs]
  split
  case h_2 => exact hd
  case h_1 i _ =>
    refine ⟨fun c hc j hj => ?_, ?_⟩
    case refine_1 =>
      rw [List.length_modify]
      exact hd.numbers c hc j hj
    case refine_2 =>
      have hl : (d.slots ++ [Attrs.ofPairs as]).length = d.slots.length + 1 := List.length_append
      refine forall_mem_modify i (fun p hp => ?_) fun _ _ => hl ▸ Nat.lt_succ_self _
      exact hl ▸ Nat.lt_succ_of_lt (hd.slots p hp)

theorem run (hd : d.Valid) (s : Step) : (d.run s).Valid := by
  cases s
  case parse rs                => exact hd.putRecords rs
  case new m                   => exact hd.putRecord m.record
  case push card n             => exact hd.push card n
  case pushSame card other pos => exact hd.pushSame card (other, pos)
  case attr card pos key v     => exact hd.setAttr (card, pos) key v
  case attrs card pos as       => exact hd.setAttrs (card, pos) as

theorem memos_push (hd : d.Valid) (card : Nat) (n : Node) :
    (d.push card n).memos = d.memos.modify card (·.push n) := by
  have hn : (d.push card n).nodeAt d.places.length = n := by
    simp [nodeAt, place, node, Desk.push]
  have hm (c : Card) : (d.push card n).memo (c.append [d.places.length]) =
      ((d.push card n).memo c).push n := by
    rw [memo_push, hn]
  have hc : ∀ c ∈ d.cards, (d.push card n).memo c = d.memo c :=
    fun c hc => hd.memo_append hc _ _ _
  rw [memos, memos, ← List.map_congr_left hc]
  exact map_modify hm d.cards card

-- Assigning an attribute changes the nodes of one slot.
theorem nodeAt_setAttr (hd : d.Valid) (hi : i < d.places.length) {p : Place}
    (hp : d.place? a.1 a.2 = some p) (key : Text) (v : Value) :
    (d.setAttr a.1 a.2 key v).nodeAt i =
      if p.slot = (d.place i).slot then { d.nodeAt i with attrs := (d.nodeAt i).attrs.set key v }
      else d.nodeAt i := by
  have hr : d.setAttr a.1 a.2 key v = { d with slots := d.slots.modify p.slot (·.set key v) } := by
    simp [Desk.setAttr, hp]
  rw [hr]
  exact node_slots_modify (hd.slot_place_lt hi)

-- Giving a node other attributes changes no other node.
theorem nodeAt_setAttrs (hd : d.Valid) (hj : j < d.places.length)
    (hi : d.number? a.1 a.2 = some i) (as : List (Text × Value)) :
    (d.setAttrs a.1 a.2 as).nodeAt j =
      if i = j then { d.nodeAt j with attrs := .ofPairs as } else d.nodeAt j := by
  have hs := hd.slot_place_lt hj
  have hr : d.setAttrs a.1 a.2 as = { d with
      places := d.places.modify i ({ · with slot := d.slots.length })
      slots := d.slots ++ [.ofPairs as] } := by
    simp [Desk.setAttrs, hi]
  have hpl : (d.setAttrs a.1 a.2 as).place j =
      if i = j then { d.place j with slot := d.slots.length } else d.place j := by
    rw [hr]
    simp only [place, List.getD_eq_getElem?_getD, List.getElem?_modify, List.getElem?_eq_getElem hj]
    split <;> simp_all
  rw [nodeAt, hpl, hr]
  split
  case isTrue  => simp [nodeAt, node]
  case isFalse => simp [nodeAt, node, List.getElem?_append_left hs]

end Valid

theorem number?_setAttr (d : Desk) (a b : Spot) (key : Text) (v : Value) :
    (d.setAttr a.1 a.2 key v).number? b.1 b.2 = d.number? b.1 b.2 := by
  rw [setAttr]
  split <;> rfl

theorem number?_setAttrs (d : Desk) (a b : Spot) (as : List (Text × Value)) :
    (d.setAttrs a.1 a.2 as).number? b.1 b.2 = d.number? b.1 b.2 := by
  rw [setAttrs]
  split <;> rfl

end Changes
end Desk
end MemoBase
