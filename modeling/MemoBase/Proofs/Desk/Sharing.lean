import MemoBase.Proofs.Desk.Steps
import MemoBase.Proofs.Memo.Attrs

namespace MemoBase

-- The nodes of a record, each with the number of the entry that it comes of. The header comes of none.
def Record.sources (r : Record) : List (Option Nat) :=
  none :: r.entries.zipIdx.flatMap fun e => e.1.values.map fun _ => some e.2

namespace Desk

-- What the steps that were taken say about the nodes: the records of all sheets, the nodes of every
-- memo by number, and for every node the entry of a record whose attributes it still has.
structure Ledger where
  records : List Record := []
  rows : List (List Nat) := []
  lines : List (Option (Nat × Nat)) := []

namespace Ledger

variable (l : Ledger)

-- A memo of new nodes.
def putMemo (lines : List (Option (Nat × Nat))) : Ledger :=
  { l with
    rows := l.rows ++ [List.range' l.lines.length lines.length]
    lines := l.lines ++ lines }

def putRecord (r : Record) : Ledger :=
  { l.putMemo (r.sources.map (·.map (l.records.length, ·))) with records := l.records ++ [r] }

def run (l : Ledger) : Step → Ledger
  | .parse rs                => rs.foldl putRecord l
  | .new m                   => l.putMemo (List.replicate m.nodes.length none)
  | .push card _             => { l with
    rows := l.rows.modify card (· ++ [l.lines.length])
    lines := l.lines ++ [none] }
  | .pushSame card other pos =>
    match at? l.rows (other, pos) with
    | some i => { l with rows := l.rows.modify card (· ++ [i]) }
    | none   => l
  | .attr ..                 => l
  | .attrs card pos _        =>
    match at? l.rows (card, pos) with
    | some i => { l with lines := l.lines.set i none }
    | none   => l

def ofSteps (steps : List Step) : Ledger :=
  steps.foldl run {}

def line? (i : Nat) : Option (Nat × Nat) :=
  l.lines[i]?.join

-- The same node, or two nodes that still have the attributes of one entry.
def Shares (i j : Nat) : Prop :=
  i = j ∨ ∃ x ∈ l.line? i, x ∈ l.line? j

def Same (a b : Spot) : Prop :=
  ∃ i ∈ at? l.rows a, i ∈ at? l.rows b

def Related (a b : Spot) : Prop :=
  ∃ i ∈ at? l.rows a, ∃ j ∈ at? l.rows b, l.Shares i j

instance (i j : Nat) : Decidable (l.Shares i j) :=
  inferInstanceAs (Decidable (i = j ∨ ∃ x ∈ l.line? i, x ∈ l.line? j))

instance (a b : Spot) : Decidable (l.Same a b) :=
  inferInstanceAs (Decidable (∃ i ∈ at? l.rows a, i ∈ at? l.rows b))

instance (a b : Spot) : Decidable (l.Related a b) :=
  inferInstanceAs (Decidable (∃ i ∈ at? l.rows a, ∃ j ∈ at? l.rows b, l.Shares i j))

end Ledger

-- Memos with a change at every spot.
def amend (f : Spot → Node → Node) (ms : List Memo) : List Memo :=
  ms.mapIdx fun card m =>
    { header := f (card, 0) m.header, data := m.data.mapIdx fun pos => f (card, pos + 1) }

section Sources

variable {r : Record} {n p i : Nat}

-- The slots that the nodes of a record get when the next free slot is `n`.
def slotOf (n : Nat) (o? : Option Nat) : Nat :=
  o?.elim n (n + 1 + ·)

theorem slotOf_eq_iff {o o' : Option Nat} : slotOf n o = slotOf n o' ↔ o = o' := by
  cases o <;> cases o' <;> simp [slotOf] <;> omega

theorem map_slot_places (r : Record) (n : Nat) :
    (r.places n).map (·.slot) = r.sources.map (slotOf n) := by
  simp only [Record.places, Record.sources, List.map_cons, List.map_flatMap, List.map_map,
    Function.comp_def, List.flatMap_map, List.zipIdx_eq_map_add (i := _ + 1)]
  rfl

theorem length_sources (r : Record) (n : Nat) : r.sources.length = (r.places n).length := by
  have := congrArg List.length (map_slot_places r n)
  simpa using this.symm

-- A node that comes of an entry has its key and is one of its values.
theorem exists_entry_of_source {q : Place} (hs : some i ∈ r.sources[p]?)
    (hq : q ∈ (r.places n)[p]?) : ∃ e ∈ r.entries[i]?, q.key = e.key ∧ q.value ∈ e.values := by
  let nodes := r.entries.zipIdx.flatMap fun e => e.1.values.map fun v => (e, v)
  have hsn : r.sources = none :: nodes.map fun x => some x.1.2 := by
    simp [Record.sources, nodes, List.map_flatMap, Function.comp_def]
  have hqn : r.places n =
      ⟨r.collection, r.title, n⟩ :: nodes.map fun x => ⟨x.1.1.key, x.2, n + 1 + x.1.2⟩ := by
    simp [Record.places, nodes, List.map_flatMap, Function.comp_def, List.flatMap_map,
      List.zipIdx_eq_map_add (i := n + 1)]
  cases p
  case zero   => simp [hsn] at hs
  case succ p =>
    rw [hsn, List.getElem?_cons_succ, List.getElem?_map] at hs
    rw [hqn, List.getElem?_cons_succ, List.getElem?_map] at hq
    obtain ⟨⟨⟨e, k⟩, v⟩, hx, hk⟩ := Option.map_eq_some_iff.mp hs
    cases hk
    obtain rfl : _ = q := by simpa [hx] using hq
    have hm := List.mem_of_getElem? hx
    simp only [nodes, List.mem_flatMap, List.mem_map, Prod.mk.injEq] at hm
    obtain ⟨_, he, _, hv, rfl, rfl⟩ := hm
    exact ⟨e, List.mem_zipIdx_iff_getElem?.mp he, rfl, hv⟩

theorem eq_zero_of_source_eq_none (h : none ∈ r.sources[p]?) : p = 0 := by
  cases p
  case zero   => rfl
  case succ p =>
    have ht : none ∈ r.sources.tail := List.mem_of_getElem? (i := p) h
    simp [Record.sources] at ht

theorem source_eq_iff {q : Nat} {o o' : Option Nat} (h : o ∈ r.sources[p]?) (h' : o' ∈ r.sources[q]?) :
    o = o' ↔ p = q ∨ ∃ k ∈ o, k ∈ o' := by
  constructor
  case mp =>
    rintro rfl
    cases o
    case none =>
      have := eq_zero_of_source_eq_none h'
      exact .inl ((eq_zero_of_source_eq_none h).trans this.symm)
    case some k => exact .inr ⟨k, rfl, rfl⟩
  case mpr =>
    rintro (rfl | ⟨k, hk, hk'⟩)
    case inl => exact Option.mem_unique h h'
    case inr => exact (Option.mem_def.mp hk).trans (Option.mem_def.mp hk').symm

theorem exists_source {q : Place} (h : q ∈ (r.places n)[p]?) :
    ∃ o ∈ r.sources[p]?, q.slot = slotOf n o := by
  have hs : (r.places n)[p]?.map (·.slot) = r.sources[p]?.map (slotOf n) := by
    rw [← List.getElem?_map, map_slot_places, List.getElem?_map]
  rw [Option.mem_def.mp h] at hs
  obtain ⟨o, ho, hq⟩ := Option.map_eq_some_iff.mp hs.symm
  exact ⟨o, ho, hq.symm⟩

theorem sources_record (m : Memo) :
    m.record.sources = none :: (List.range m.data.length).map some := by
  simp only [Record.sources, Memo.record, List.zipIdx_map, List.flatMap_map]
  simp only [List.map_cons, List.map_nil, Prod.map, ← List.map_eq_flatMap]
  rw [List.range_eq_range', ← List.zipIdx_map_snd, List.map_map]
  rfl

theorem nodup_sources_record (m : Memo) : m.record.sources.Nodup := by
  rw [sources_record]
  exact List.nodup_cons.mpr ⟨by simp, List.nodup_range.map fun _ _ => Option.some.inj⟩

end Sources

section Steps

-- The desk as the ledger has it.
structure Tracked (d : Desk) (l : Ledger) : Prop where
  rows    : d.cards.map Card.nodes = l.rows
  length  : d.places.length = l.lines.length
  shared  : ∀ i j, ∀ p ∈ d.places[i]?, ∀ q ∈ d.places[j]?, p.slot = q.slot ↔ l.Shares i j
  entries : ∀ i, ∀ p ∈ d.places[i]?, ∀ x ∈ l.line? i,
    ∃ r ∈ l.records[x.1]?, ∃ e ∈ r.entries[x.2]?, p.key = e.key ∧ p.value ∈ e.values

variable {d : Desk} {l : Ledger} {i j : Nat}

theorem Tracked.number?_eq (h : Tracked d l) (a : Spot) : d.number? a.1 a.2 = at? l.rows a := by
  rw [Desk.number?_eq, h.rows]

section Append

variable {records : List Record} {rows : List (List Nat)} {lines : List (Option (Nat × Nat))}
variable {p : Place} {ps : List Place}

theorem Tracked.record_lt (h : Tracked d l) {x : Nat × Nat} {p : Place} (hp : p ∈ d.places[i]?)
    (hx : x ∈ l.line? i) : x.1 < l.records.length := by
  obtain ⟨r, hr, _⟩ := h.entries i p hp x hx
  exact (List.getElem?_eq_some_iff.mp hr).choose

-- A place is an old one or a new one, and so is its line.
theorem Tracked.append_cases (h : Tracked d l) (hp : p ∈ (d.places ++ ps)[i]?) :
    (i < d.places.length ∧ p ∈ d.places[i]? ∧
      Ledger.line? { records, rows, lines := l.lines ++ lines } i = l.line? i) ∨
    ∃ k, i = d.places.length + k ∧ p ∈ ps[k]? ∧
      Ledger.line? { records, rows, lines := l.lines ++ lines } i = lines[k]?.join := by
  rcases Nat.lt_or_ge i d.places.length with hi | hi
  case inl =>
    rw [List.getElem?_append_left hi] at hp
    exact .inl ⟨hi, hp, by simp only [Ledger.line?, List.getElem?_append_left (h.length ▸ hi)]⟩
  case inr =>
    obtain ⟨k, rfl⟩ := Nat.exists_eq_add_of_le hi
    rw [List.getElem?_append_right hi, Nat.add_sub_cancel_left] at hp
    exact .inr ⟨k, rfl, hp, by simp [Ledger.line?, h.length, List.getElem?_append_right]⟩

-- New places behind the others, with slots and lines that no other place has.
theorem Tracked.append (h : Tracked d l) (hd : d.Valid) {cards : List Card} (slots : List Attrs)
    (rs : List Record) (ps : List Place) (lines : List (Option (Nat × Nat)))
    (hr : cards.map Card.nodes = rows)
    (hl : ps.length = lines.length) (hs : ∀ p ∈ ps, d.slots.length ≤ p.slot)
    (hx : ∀ x, some x ∈ lines → l.records.length ≤ x.1)
    (hsh : ∀ i j : Nat, ∀ p ∈ ps[i]?, ∀ q ∈ ps[j]?,
      p.slot = q.slot ↔ i = j ∨ ∃ x ∈ lines[i]?.join, x ∈ lines[j]?.join)
    (he : ∀ i : Nat, ∀ p ∈ ps[i]?, ∀ x ∈ lines[i]?.join,
      ∃ r ∈ (l.records ++ rs)[x.1]?, ∃ e ∈ r.entries[x.2]?, p.key = e.key ∧ p.value ∈ e.values) :
    Tracked { cards, places := d.places ++ ps, slots }
      { records := l.records ++ rs, rows, lines := l.lines ++ lines } where
  rows   := hr
  length := by simp [h.length, hl]
  shared := by
    -- An old place and a new one share nothing.
    have hn {i k : Nat} {p q : Place} (hp : p ∈ d.places[i]?) (hq : q ∈ ps[k]?) :
        p.slot ≠ q.slot ∧ ∀ x ∈ l.line? i, x ∉ lines[k]?.join := by
      have := hd.slots p (List.mem_of_getElem? hp)
      have := hs q (List.mem_of_getElem? hq)
      refine ⟨by omega, fun x hxi hxk => ?_⟩
      have := h.record_lt hp hxi
      have := hx x (List.mem_of_getElem? (Option.join_eq_some_iff.mp hxk))
      omega
    intro i j p hp q hq
    rw [Ledger.Shares]
    rcases h.append_cases hp with ⟨hi, hp, hli⟩ | ⟨k, rfl, hp, hli⟩ <;>
      rcases h.append_cases hq with ⟨hj, hq, hlj⟩ | ⟨k', rfl, hq, hlj⟩ <;> rw [hli, hlj]
    case inl.inl => exact h.shared i j p hp q hq
    case inl.inr =>
      obtain ⟨hs, hx⟩ := hn hp hq
      exact iff_of_false hs fun ho => ho.elim (by omega) fun ⟨x, hi, hj⟩ => hx x hi hj
    case inr.inl =>
      obtain ⟨hs, hx⟩ := hn hq hp
      exact iff_of_false hs.symm fun ho => ho.elim (by omega) fun ⟨x, hi, hj⟩ => hx x hj hi
    case inr.inr =>
      rw [Nat.add_left_cancel_iff]
      exact hsh k k' p hp q hq
  entries := by
    intro i p hp x hx
    rcases h.append_cases hp with ⟨hi, hp, hl⟩ | ⟨k, rfl, hp, hl⟩ <;> rw [hl] at hx
    case inr => exact he k p hp x hx
    case inl =>
      obtain ⟨r, hr, he⟩ := h.entries i p hp x hx
      refine ⟨r, ?_, he⟩
      exact Option.mem_def.mpr (List.getElem?_append_left (h.record_lt hp hx) ▸ hr)

end Append

theorem Tracked.rows_putMemo (h : Tracked d l) (r : Record) {lines : List (Option (Nat × Nat))}
    (hl : (r.places d.slots.length).length = lines.length) :
    (d.putRecord r).cards.map Card.nodes = (l.putMemo lines).rows := by
  rw [putRecord_nodes, h.rows, h.length, hl]
  rfl

theorem Tracked.putRecord (h : Tracked d l) (hd : d.Valid) (r : Record) :
    Tracked (d.putRecord r) (l.putRecord r) := by
  let lines := r.sources.map (·.map (l.records.length, ·))
  have hl : (r.places d.slots.length).length = lines.length := by
    simp [lines, length_sources r d.slots.length]
  have hx {i : Nat} {o : Option Nat} (h : o ∈ r.sources[i]?) :
      lines[i]?.join = o.map (l.records.length, ·) := by
    simp [lines, Option.mem_def.mp h]
  apply h.append hd _ _ _ _ (h.rows_putMemo r hl) hl
  case hs => exact fun p hp => (slot_of_mem_places hp).left
  case hx =>
    intro x hm
    obtain ⟨o, _, ho⟩ := List.mem_map.mp hm
    obtain ⟨k, _, rfl⟩ := Option.map_eq_some_iff.mp ho
    exact Nat.le_refl _
  case hsh =>
    intro i j p hp q hq
    obtain ⟨o, ho, hp⟩ := exists_source hp
    obtain ⟨o', ho', hq⟩ := exists_source hq
    rw [hp, hq, slotOf_eq_iff, source_eq_iff ho ho', hx ho, hx ho']
    simp
  case he =>
    intro i p hp x hm
    obtain ⟨o, ho, _⟩ := exists_source hp
    rw [hx ho] at hm
    obtain ⟨k, rfl, rfl⟩ := Option.map_eq_some_iff.mp hm
    obtain ⟨e, he, hp⟩ := exists_entry_of_source ho hp
    exact ⟨r, by simp, e, he, hp⟩

theorem line_replicate (n i : Nat) :
    ((List.replicate n (none : Option (Nat × Nat)))[i]?).join = none := by
  rw [List.getElem?_replicate]
  split <;> rfl

theorem Tracked.putMemo (h : Tracked d l) (hd : d.Valid) (m : Memo) :
    Tracked (d.putMemo m) (l.putMemo (List.replicate m.nodes.length none)) := by
  have hl : (m.record.places d.slots.length).length =
      (List.replicate m.nodes.length (none : Option (Nat × Nat))).length := by
    simp [← length_sources, sources_record, Memo.nodes]
  have := h.append hd (d.putMemo m).slots [] _ _ (h.rows_putMemo m.record hl) hl
    (fun p hp => (slot_of_mem_places hp).left) (by simp)
  rw [List.append_nil] at this
  apply this
  case hsh =>
    intro i j p hp q hq
    obtain ⟨o, ho, hp⟩ := exists_source hp
    obtain ⟨o', ho', hq⟩ := exists_source hq
    have hi : i < m.record.sources.length := (List.getElem?_eq_some_iff.mp ho).choose
    have hij := List.getElem?_inj (j := j) hi (nodup_sources_record m)
    rw [Option.mem_def.mp ho, Option.mem_def.mp ho', Option.some_inj] at hij
    rw [hp, hq, slotOf_eq_iff, hij, line_replicate]
    simp
  case he =>
    intro i p hp x hx
    rw [line_replicate] at hx
    contradiction

theorem Tracked.push (h : Tracked d l) (hd : d.Valid) (card : Nat) (n : Node) :
    Tracked (d.push card n) (l.run (.push card n)) := by
  have hr : (d.push card n).cards.map Card.nodes = (l.run (.push card n)).rows := by
    rw [Ledger.run, ← h.rows, ← h.length]
    exact map_modify (Card.nodes_append [d.places.length]) d.cards card
  have := h.append hd (d.push card n).slots [] [⟨n.key, n.value, d.slots.length⟩] [none]
    hr rfl (by simp) (by simp)
  rw [List.append_nil] at this
  apply this
  case hsh =>
    intro i j p hp q hq
    obtain ⟨rfl, rfl⟩ : i = 0 ∧ _ = p := by simpa [List.getElem?_singleton] using hp
    obtain ⟨rfl, rfl⟩ : j = 0 ∧ _ = q := by simpa [List.getElem?_singleton] using hq
    simp
  case he =>
    intro i p hp x hx
    have := line_replicate 1 i
    rw [List.replicate_one] at this
    rw [this] at hx
    contradiction

theorem Tracked.pushSame (h : Tracked d l) (card : Nat) (a : Spot) :
    Tracked (d.pushSame card a.1 a.2) (l.run (.pushSame card a.1 a.2)) := by
  rw [Desk.pushSame, Ledger.run, h.number?_eq]
  cases at? l.rows (a.1, a.2)
  case none   => exact h
  case some i =>
    refine ⟨?_, h.length, h.shared, h.entries⟩
    rw [← h.rows]
    exact map_modify (Card.nodes_append [i]) d.cards card

theorem Tracked.setAttr (h : Tracked d l) (a : Spot) (key : Text) (v : Value) :
    Tracked (d.setAttr a.1 a.2 key v) l := by
  rw [Desk.setAttr]
  split
  case h_1 => exact ⟨h.rows, h.length, h.shared, h.entries⟩
  case h_2 => exact h

theorem Tracked.setAttrs (h : Tracked d l) (hd : d.Valid) (a : Spot) (as : List (Text × Value)) :
    Tracked (d.setAttrs a.1 a.2 as) (l.run (.attrs a.1 a.2 as)) := by
  rw [Desk.setAttrs, Ledger.run, h.number?_eq]
  cases at? l.rows (a.1, a.2)
  case none   => exact h
  case some i =>
    have hl (j : Nat) : Ledger.line? { l with lines := l.lines.set i none } j =
        if i = j then none else l.line? j := by
      rw [Ledger.line?, List.getElem?_set]
      split
      case isTrue  => split <;> rfl
      case isFalse => rfl
    have hm {j : Nat} {p : Place}
        (hp : p ∈ (d.places.modify i ({ · with slot := d.slots.length }))[j]?) :
        ∃ p₀ ∈ d.places[j]?, p = if i = j then { p₀ with slot := d.slots.length } else p₀ := by
      rw [List.getElem?_modify] at hp
      obtain ⟨p₀, h₀, rfl⟩ := Option.map_eq_some_iff.mp hp
      exact ⟨p₀, h₀, by split <;> rfl⟩
    constructor
    case rows   => exact h.rows
    case length => simp [h.length]
    case shared =>
      intro j k p hp q hq
      obtain ⟨p, hp', rfl⟩ := hm hp
      obtain ⟨q, hq', rfl⟩ := hm hq
      have hps := hd.slots p (List.mem_of_getElem? hp')
      have hqs := hd.slots q (List.mem_of_getElem? hq')
      rw [Ledger.Shares, hl, hl]
      by_cases hj : i = j
      case pos =>
        subst hj
        by_cases hk : i = k
        case pos => simp [← hk]
        case neg => simp [hk, Nat.ne_of_gt hqs]
      case neg =>
        by_cases hk : i = k
        case pos => simp [← hk, hj, Ne.symm hj, Nat.ne_of_lt hps]
        case neg => simpa only [hj, hk, if_false, Ledger.Shares] using h.shared j k p hp' q hq'
    case entries =>
      intro j p hp x hx
      obtain ⟨p, hp', rfl⟩ := hm hp
      rw [hl] at hx
      split at hx
      case isTrue    => contradiction
      case isFalse hj =>
        rw [if_neg hj]
        exact h.entries j p hp' x hx

theorem Tracked.putRecords (h : Tracked d l) (hd : d.Valid) (rs : List Record) :
    Tracked (d.putRecords rs) (rs.foldl Ledger.putRecord l) := by
  induction rs generalizing d l
  case nil          => exact h
  case cons r rs hi => exact hi (h.putRecord hd r) (hd.putRecord r)

theorem Tracked.run (h : Tracked d l) (hd : d.Valid) (s : Step) : Tracked (d.run s) (l.run s) := by
  cases s
  case parse rs                => exact h.putRecords hd rs
  case new m                   => exact h.putMemo hd m
  case push card n             => exact h.push hd card n
  case pushSame card other pos => exact h.pushSame card (other, pos)
  case attr card pos key v     => exact h.setAttr (card, pos) key v
  case attrs card pos as       => exact h.setAttrs hd (card, pos) as

theorem tracked_runAll (steps : List Step) :
    (runAll {} steps).Valid ∧ Tracked (runAll {} steps) (Ledger.ofSteps steps) := by
  suffices ∀ {d l}, Valid d → Tracked d l →
      (runAll d steps).Valid ∧ Tracked (runAll d steps) (steps.foldl Ledger.run l) from
    this .nil ⟨rfl, rfl, by simp, by simp⟩
  induction steps
  case nil             => exact fun hd h => ⟨hd, h⟩
  case cons s steps hi => exact fun hd h => hi (hd.run s) (h.run hd s)

end Steps

section Nodes

variable {d d' : Desk} {l : Ledger} {a b : Spot} {i j : Nat} {p q : Place}

theorem Tracked.slot_eq_iff (h : Tracked d l) (hd : d.Valid) (hp : p ∈ d.place? a.1 a.2)
    (hq : q ∈ d.place? b.1 b.2) : p.slot = q.slot ↔ l.Related a b := by
  obtain ⟨i, hi, rfl⟩ := Option.map_eq_some_iff.mp hp
  obtain ⟨j, hj, rfl⟩ := Option.map_eq_some_iff.mp hq
  have := h.shared i j _ (hd.place_mem hi) _ (hd.place_mem hj)
  rw [h.number?_eq] at hi hj
  simpa [Ledger.Related, hi, hj] using this

theorem Tracked.node?_setAttr (h : Tracked d l) (hd : d.Valid) (a b : Spot) (key : Text) (v : Value) :
    (d.setAttr a.1 a.2 key v).node? b = (d.node? b).map fun n =>
      if l.Related a b then { n with attrs := n.attrs.set key v } else n := by
  rw [node?_eq_map, node?_eq_map, number?_setAttr]
  cases hb : d.number? b.1 b.2
  case none   => rfl
  case some j =>
    have hj := hd.number_lt hb
    cases ha : d.place? a.1 a.2
    case none =>
      have hn : d.number? a.1 a.2 = none := Option.map_eq_none_iff.mp ha
      have hr : ¬l.Related a b := by
        rw [h.number?_eq] at hn
        simp [Ledger.Related, hn]
      simp [Desk.setAttr, ha, hr]
    case some p =>
      have hq : d.place? b.1 b.2 = some (d.place j) := by rw [place?, hb]; rfl
      rw [Option.map_some, hd.nodeAt_setAttr hj ha]
      simp only [h.slot_eq_iff hd ha hq]
      rfl

theorem Tracked.node?_setAttrs (h : Tracked d l) (hd : d.Valid) (a b : Spot)
    (as : List (Text × Value)) :
    (d.setAttrs a.1 a.2 as).node? b = (d.node? b).map fun n =>
      if l.Same a b then { n with attrs := .ofPairs as } else n := by
  rw [node?_eq_map, node?_eq_map, number?_setAttrs]
  cases hb : d.number? b.1 b.2
  case none   => rfl
  case some j =>
    have hb' := h.number?_eq b ▸ hb
    cases ha : d.number? a.1 a.2
    case none =>
      have hs : ¬l.Same a b := by
        rw [h.number?_eq] at ha
        simp [Ledger.Same, ha]
      simp [Desk.setAttrs, ha, hs]
    case some i =>
      have hs : l.Same a b ↔ i = j := by
        rw [h.number?_eq] at ha
        simp [Ledger.Same, ha, hb', eq_comm]
      rw [Option.map_some, hd.nodeAt_setAttrs (hd.number_lt hb) ha]
      simp only [hs]
      rfl

-- The memos are known from the nodes at all spots.
theorem memos_eq_amend {f : Spot → Node → Node} (h : ∀ b, d'.node? b = (d.node? b).map (f b)) :
    d'.memos = amend f d.memos := by
  apply List.ext_getElem?
  intro card
  have hn (d : Desk) (pos : Nat) : d.node? (card, pos) = d.memos[card]?.bind (·.nodes[pos]?) := by
    cases hm : d.memos[card]? <;> simp [node?, at?, hm]
  have h (pos : Nat) := h (card, pos)
  simp only [hn] at h
  rw [amend, List.getElem?_mapIdx]
  cases hm : d.memos[card]? <;> cases hm' : d'.memos[card]? <;> simp only [hm, hm'] at h
  case none.none => rfl
  case none.some => exact absurd (h 0) (by simp [Memo.nodes])
  case some.none => exact absurd (h 0) (by simp [Memo.nodes])
  case some.some m m' =>
    refine congrArg some (Memo.nodes_inj (List.ext_getElem? fun pos => ?_))
    have ha : Memo.nodes ⟨f (card, 0) m.header, m.data.mapIdx fun pos => f (card, pos + 1)⟩ =
        m.nodes.mapIdx fun pos => f (card, pos) := by
      rw [Memo.nodes, Memo.nodes, List.mapIdx_cons]
    rw [ha, List.getElem?_mapIdx]
    exact h pos

-- Nodes share their attributes if they are one node, or if one line of a sheet gave them and they were
-- given no others since then. Nothing else on the desk changes with them.
theorem attrs_shared_by_source (steps : List Step) :
    let d := runAll {} steps
    let l := Ledger.ofSteps steps
    (∀ a b, ∀ p ∈ d.place? a.1 a.2, ∀ q ∈ d.place? b.1 b.2, p.slot = q.slot ↔ l.Related a b) ∧
    (∀ a, ∀ n ∈ d.node? a, ∀ i ∈ at? l.rows a, ∀ x ∈ l.line? i,
      ∃ r ∈ l.records[x.1]?, ∃ e ∈ r.entries[x.2]?, n.key = e.key ∧ n.value ∈ e.values) ∧
    (∀ rs, (d.run (.parse rs)).memos = d.memos ++ rs.map Record.memo) ∧
    (∀ m, (d.run (.new m)).memos = d.memos ++ [m]) ∧
    (∀ card n, (d.run (.push card n)).memos = d.memos.modify card (·.push n)) ∧
    (∀ card a, (d.run (.pushSame card a.1 a.2)).memos =
      (d.node? a).elim d.memos fun n => d.memos.modify card (·.push n)) ∧
    (∀ a key v, (d.run (.attr a.1 a.2 key v)).memos = amend (fun b n =>
      if l.Related a b then { n with attrs := n.attrs.set key v } else n) d.memos) ∧
    (∀ a as, (d.run (.attrs a.1 a.2 as)).memos = amend (fun b n =>
      if l.Same a b then { n with attrs := .ofPairs as } else n) d.memos) ∧
    ∀ (as : Attrs) (key : Text) (v : Value),
      (as.set key v).get? key = some v ∧ ∀ k ≠ key, (as.set key v).get? k = as.get? k := by
  have ⟨hd, h⟩ := tracked_runAll steps
  refine ⟨?shared, ?entries, ?parse, ?new, ?push, ?pushSame, ?attr, ?attrs, ?value⟩
  case shared   => exact fun a b p hp q hq => h.slot_eq_iff hd hp hq
  case parse    => exact hd.memos_putRecords
  case new      => exact hd.memos_putMemo
  case push     => exact hd.memos_push
  case pushSame => exact memos_pushSame _
  case attr     => exact fun a key v => memos_eq_amend fun b => h.node?_setAttr hd a b key v
  case attrs    => exact fun a as => memos_eq_amend fun b => h.node?_setAttrs hd a b as
  case value    => exact fun as key v => ⟨Attrs.get?_set_self as key v, fun k => Attrs.get?_set_of_ne⟩
  case entries =>
    intro a n hn i hi x hx
    rw [node?_eq_map, h.number?_eq, Option.mem_def.mp hi] at hn
    obtain rfl := Option.some.inj hn
    exact h.entries i _ (hd.place_mem ((h.number?_eq a).trans hi)) x hx

-- The first node of the line is on two cards, and the second was given attributes of its own. The third
-- still shares them with the first, but no node of the line below does.
theorem attrs_shared_by_source_on_two_cards :
    let v : Value := .text ['m']
    let steps : List Step := [.parse (Sheet.ofText "@a x\n.k, 1, 2, 3\n.k, 4".toList),
      .new ⟨⟨['b'], v, []⟩, []⟩, .pushSame 1 0 1, .attrs 0 2 []]
    let d := runAll {} steps
    let l := Ledger.ofSteps steps
    let keys (ms : List Memo) := ms.map (·.nodes.map (·.attrs.map (·.1)))
    (∃ p ∈ d.place? 0 3, ∃ q ∈ d.place? 1 1, p.slot = q.slot ∧ l.Related (0, 3) (1, 1)) ∧
    (∃ p ∈ d.place? 0 3, ∃ q ∈ d.place? 0 2, p.slot ≠ q.slot ∧ ¬l.Related (0, 3) (0, 2)) ∧
    (∃ p ∈ d.place? 0 3, ∃ q ∈ d.place? 0 4, p.slot ≠ q.slot ∧ ¬l.Related (0, 3) (0, 4)) ∧
    (∃ n ∈ d.node? (1, 1), ∃ r ∈ l.records[0]?, ∃ e ∈ r.entries[0]?,
      n.key = e.key ∧ n.value ∈ e.values) ∧
    keys (d.run (.attr 0 3 ['u'] v)).memos = [[[], [['u']], [], [['u']], []], [[], [['u']]]] ∧
    keys (d.run (.attrs 1 1 [(['w'], v)])).memos = [[[], [['w']], [], [], []], [[], [['w']]]] := by
  intro v steps d l keys
  have ⟨hs, he, _, _, _, _, ha, has, _⟩ := attrs_shared_by_source steps
  refine ⟨?first, ?second, ?below, ?entry, ?attr, ?attrs⟩
  case first  => exact ⟨_, rfl, _, rfl, by decide, (hs (0, 3) (1, 1) _ rfl _ rfl).mp (by decide)⟩
  case second => exact ⟨_, rfl, _, rfl, by decide, mt (hs (0, 3) (0, 2) _ rfl _ rfl).mpr (by decide)⟩
  case below  => exact ⟨_, rfl, _, rfl, by decide, mt (hs (0, 3) (0, 4) _ rfl _ rfl).mpr (by decide)⟩
  case entry  => exact ⟨_, rfl, he (1, 1) _ rfl 1 (by decide) (0, 0) (by decide)⟩
  case attr   => exact (congrArg keys (ha (0, 3) ['u'] v)).trans (by decide)
  case attrs  => exact (congrArg keys (has (1, 1) [(['w'], v)])).trans (by decide)

end Nodes

end Desk
end MemoBase
