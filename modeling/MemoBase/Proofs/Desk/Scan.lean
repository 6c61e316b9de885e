import Mathlib.Data.List.Induction
import MemoBase.Desk.Scan
import MemoBase.Proofs.Desk.Steps
import MemoBase.Proofs.Sheet.Scan

namespace MemoBase

-- The attributes of an entry without values belong to no node.
def Entry.kept (e : Entry) : Entry :=
  { e with attrs := if e.values = [] then [] else e.attrs }

def Record.kept (r : Record) : Record :=
  { r with entries := r.entries.map Entry.kept }

theorem Record.memo_kept (r : Record) : r.kept.memo = r.memo := by
  have hn (e : Entry) : e.kept.nodes = e.nodes := by
    cases hv : e.values <;> simp [Entry.nodes, Entry.kept, hv]
  simp [Record.memo, Record.kept, List.flatMap_map, hn]

theorem Record.places_kept (r : Record) (n : Nat) : r.kept.places n = r.places n := by
  simp [Record.places, Record.kept, Entry.kept, List.zipIdx_map, List.flatMap_map]

namespace Desk

variable (d : Desk)

def putEntry (card : Nat) (e : Entry) : Desk where
  cards := d.cards.modify card (·.append (List.range' d.places.length e.values.length))
  places := d.places ++ e.values.map (⟨e.key, ·, d.slots.length⟩)
  slots := d.slots ++ [e.attrs]

def putEntries (card? : Option Nat) (es : List Entry) : Desk :=
  match card? with
  | some card => es.foldl (putEntry · card) d
  | none      => d

theorem Valid.putEntry {d : Desk} (hd : d.Valid) (card : Nat) (e : Entry) :
    (d.putEntry card e).Valid where
  numbers := by
    have hl : (d.putEntry card e).places.length = d.places.length + e.values.length := by
      simp [Desk.putEntry]
    rw [hl]
    apply hd.numbers_append card (Nat.le_add_right ..)
    exact fun i hi => (List.mem_range'_1.mp hi).right
  slots := by
    have hl : (d.putEntry card e).slots.length = d.slots.length + 1 := List.length_append
    refine List.forall_mem_append.mpr ⟨fun p hp => ?_, List.forall_mem_map.mpr fun _ _ => ?_⟩
    case refine_1 =>
      have := hd.slots p hp
      omega
    case refine_2 => exact hl ▸ Nat.lt_succ_self _

theorem places_concat (r : Record) (es : List Entry) (e : Entry) (n : Nat) :
    Record.places { r with entries := es ++ [e] } n =
      Record.places { r with entries := es } n ++ e.values.map (⟨e.key, ·, n + 1 + es.length⟩) := by
  simp [Record.places, List.zipIdx_append]

theorem putRecord_concat (r : Record) (es : List Entry) (e : Entry) :
    d.putRecord { r with entries := es ++ [e] } =
      (d.putRecord { r with entries := es }).putEntry d.cards.length e := by
  have hs : d.slots.length + (es.length + 1) = d.slots.length + 1 + es.length := by omega
  have hp : (d.putRecord { r with entries := es }).places.length =
      d.places.length + 1 + (es.flatMap (·.values)).length := by
    rw [putRecord, List.length_append, length_places, Nat.add_right_comm, Nat.add_assoc]
  rw [putEntry, hp]
  simp [putRecord, Card.append, places_concat, modify_concat, hs, List.range'_append_1]

theorem putRecord_eq_putEntries (r : Record) :
    d.putRecord r = (d.putRecord { r with entries := [] }).putEntries d.cards.length r.entries := by
  suffices ∀ es, d.putRecord { r with entries := es } =
      (d.putRecord { r with entries := [] }).putEntries d.cards.length es from this r.entries
  intro es
  induction es using List.reverseRecOn
  case nil => rfl
  case append_singleton es e hi =>
    rw [putRecord_concat, hi]
    simp [putEntries]

-- The slots of the nodes.
def layout : List (List Nat) :=
  d.cards.map fun c => c.nodes.map fun i => (d.place i).slot

theorem layout_congr {d d' : Desk} (hc : d'.cards = d.cards) (hp : d'.places = d.places) :
    d'.layout = d.layout := by
  simp [layout, place, hc, hp]

theorem layout_putRecords_kept {d d' : Desk} (hc : d'.cards = d.cards) (hp : d'.places = d.places)
    (hs : d'.slots.length = d.slots.length) (rs : List Record) :
    (d'.putRecords (rs.map Record.kept)).layout = (d.putRecords rs).layout := by
  induction rs generalizing d d'
  case nil => exact layout_congr hc hp
  case cons r rs hi =>
    have hv : r.kept.entries.flatMap (·.values) = r.entries.flatMap (·.values) := by
      simp [Record.kept, Entry.kept, List.flatMap_map]
    apply hi
    case hc => simp [putRecord, hc, hp, hv]
    case hp => simp [putRecord, hp, hs, r.places_kept]
    case hs => simp [putRecord, Record.kept, hs]

end Desk

namespace Scan

-- What a statement does to the scan.
inductive Put (x : Scan) : Statement → Scan → Prop
  | header {key : Text} {title : Value} : Put x (.header key title) (x.putHeader key title)
  | data {card : Nat} {key : Text} {values : List Value} :
    x.card? = some card → Put x (.data key values) (x.putData card key values)
  | dropData {key : Text} {values : List Value} : x.card? = none → Put x (.data key values) x
  | attr {card slot : Nat} {key : Text} {v : Value} :
    x.card? = some card → x.target? = some slot → Put x (.attr key v) (x.putAttr slot key v)
  | dropAttr {key : Text} {v : Value} : x.card? = none ∨ x.target? = none → Put x (.attr key v) x

variable {x y : Scan} {s : Statement} {card slot : Nat} {key : Text} {v : Value}

theorem put_spec (x : Scan) (s : Statement) : Put x s (x.put s) := by
  cases s
  case header => exact .header
  case data key values =>
    cases hc : x.card?
    case none => simpa [put, hc] using Put.dropData hc
    case some => simpa [put, hc] using Put.data hc
  case attr key v =>
    cases hc : x.card?
    case none => simpa [put, hc] using Put.dropAttr (.inl hc)
    case some =>
      cases ht : x.target?
      case none => simpa [put, hc, ht] using Put.dropAttr (.inr ht)
      case some => simpa [put, hc, ht] using Put.attr hc ht

theorem Put.eq (h : Put x s y) : x.put s = y := by
  cases h
  case header                => rfl
  case data hc | dropData hc => simp [put, hc]
  case attr hc ht            => simp [put, hc, ht]
  case dropAttr h            => rcases h with h | h <;> cases hc : x.card? <;> simp_all [put]

section Records

def putAttrs (x : Scan) (as : List (Text × Value)) : Scan :=
  x.putAll (as.map fun a => .attr a.1 a.2)

variable {as : List (Text × Value)}

theorem putAttrs_cons (h : Put x (.attr key v) y) : x.putAttrs ((key, v) :: as) = y.putAttrs as :=
  h.eq ▸ rfl

theorem putAttrs_of_dropped (h : x.card? = none ∨ x.target? = none) : x.putAttrs as = x := by
  induction as
  case nil          => rfl
  case cons a as hi => rw [putAttrs_cons (.dropAttr h), hi]

theorem desk_putAttrs (hc : x.card? = some card) (ht : x.target? = some slot) :
    (x.putAttrs as).desk = { x.desk with
      slots := x.desk.slots.modify slot (as.foldl (fun bs a => bs.set a.1 a.2) ·) } := by
  induction as generalizing x
  case nil => simp [putAttrs, putAll, show (fun bs : Attrs => bs) = id from rfl]
  case cons a as hi =>
    rw [putAttrs_cons (.attr hc ht), hi (x := x.putAttr slot a.1 a.2) hc ht]
    simp [putAttr, List.modify_modify_eq, Function.comp_def]

-- The attributes below a header are those of its record.
theorem desk_putHeader_putAttrs (x : Scan) (as : List (Text × Value)) :
    ((x.putHeader key v).putAttrs as).desk = x.desk.putRecord ⟨key, v, .ofPairs as, []⟩ := by
  rw [desk_putAttrs rfl rfl]
  simp [putHeader, Desk.modify_concat, Desk.putRecord, Record.places, Attrs.ofPairs]

theorem desk_putData_putAttrs {values : List Value} (hc : x.card? = some card) :
    ((x.putData card key values).putAttrs as).desk =
      x.desk.putEntry card (Entry.kept ⟨key, values, .ofPairs as⟩) := by
  by_cases hv : values = []
  case pos =>
    rw [putAttrs_of_dropped (.inr (if_pos hv))]
    simp [putData, Desk.putEntry, Entry.kept, hv]
  case neg =>
    rw [desk_putAttrs (x := x.putData card key values) hc (if_neg hv)]
    simp [putData, Desk.modify_concat, Desk.putEntry, Entry.kept, Attrs.ofPairs, hv]

-- The sheet completes the card that the scan is at and puts its records on the desk.
def putSheet (x : Scan) (sh : Sheet) : Desk :=
  ((x.putAttrs sh.attrs).desk.putEntries x.card? (sh.entries.map Entry.kept)).putRecords
    (sh.records.map Record.kept)

theorem putSheet_cons (h : Put x s y) (sh : Sheet) : x.putSheet (sh.cons s) = y.putSheet sh := by
  simp only [putSheet]
  cases h
  case header key v =>
    have he : (x.putAttrs []).desk.putEntries x.card? [] = x.desk := by cases x.card? <;> rfl
    rw [desk_putHeader_putAttrs]
    simp only [Sheet.cons, List.map_nil, List.map_cons, he, Desk.putRecords, List.foldl_cons]
    rw [Desk.putRecord_eq_putEntries]
    rfl
  case data card key vs hc =>
    have hc' : (x.putData card key vs).card? = x.card? := rfl
    rw [desk_putData_putAttrs hc, hc', hc]
    rfl
  case dropData hc =>
    rw [putAttrs_of_dropped (.inl hc), putAttrs_of_dropped (.inl hc), hc]
    rfl
  case attr hc ht =>
    rw [← putAttrs_cons (.attr hc ht)]
    rfl
  case dropAttr h =>
    rw [putAttrs_of_dropped h, putAttrs_of_dropped h]
    rfl

theorem desk_putAll (x : Scan) (ss : List Statement) :
    (x.putAll ss).desk = x.putSheet (Sheet.ofStatements ss) := by
  induction ss generalizing x
  case nil          => cases hc : x.card? <;> simp [putSheet, hc] <;> rfl
  case cons s ss hi => exact (hi (x.put s)).trans (putSheet_cons (x.put_spec s) _).symm

end Records

section Drafts

-- What a statement does does not depend on the line that is open.
theorem Put.withDraft (h : Put x s y) (d? : Option Draft) :
    Put { x with draft? := d? } s { y with draft? := d? } := by
  cases h
  case header      => exact .header
  case data hc     => exact .data hc
  case dropData hc => exact .dropData hc
  case attr hc ht  => exact .attr hc ht
  case dropAttr h  => exact .dropAttr h

theorem putAll_withDraft (x : Scan) (d? : Option Draft) (ss : List Statement) :
    { x with draft? := d? }.putAll ss = { x.putAll ss with draft? := d? } := by
  induction ss generalizing x
  case nil => rfl
  case cons s ss hi =>
    have hp : { x with draft? := d? }.put s = { x.put s with draft? := d? } :=
      ((x.put_spec s).withDraft d?).eq
    exact (congrArg (putAll · ss) hp).trans (hi (x.put s))

def ofDrafts (ds : List Draft) : Scan :=
  ({} : Scan).putAll (ds.map Draft.finish)

theorem ofDrafts_append (ds ds' : List Draft) :
    ofDrafts (ds ++ ds') = (ofDrafts ds).putAll (ds'.map Draft.finish) := by
  simp [ofDrafts, putAll]

theorem ofDrafts_concat (ds : List Draft) (d : Draft) :
    ofDrafts (ds ++ [d]) = (ofDrafts ds).put d.finish :=
  ofDrafts_append ds [d]

theorem ofDrafts_withDraft (ds : List Draft) : { ofDrafts ds with draft? := none } = ofDrafts ds :=
  (putAll_withDraft {} none (ds.map Draft.finish)).symm

-- The lines that have been read are drafts that are finished and one that is not.
theorem ofLines_eq (ls : List Text) :
    ofLines ls = { ofDrafts (Draft.finished none ls) with draft? := Draft.pending none ls } := by
  suffices ∀ (ds : List Draft) (d? : Option Draft), ls.foldl step { ofDrafts ds with draft? := d? } =
      { ofDrafts (ds ++ Draft.finished d? ls) with draft? := Draft.pending d? ls } from this [] none
  induction ls
  case nil => simp [Draft.finished]
  case cons raw ls hi =>
    intro ds d?
    have hs : step { ofDrafts ds with draft? := d? } raw =
        { ofDrafts (ds ++ Draft.ended d? raw) with draft? := (Statement.step d? raw).1 } := by
      rw [step, Draft.step_snd, putAll_withDraft, ofDrafts_append]
    rw [List.foldl_cons, hs, hi, Draft.finished, List.append_assoc, Draft.pending_cons]

theorem ofText_eq (s : Text) : ofText s = ofDrafts (Draft.ofText s) := by
  have hp : ((Draft.pending none s.lines).map Draft.finish).toList =
      (Draft.pending none s.lines).toList.map Draft.finish := by
    cases Draft.pending none s.lines <;> rfl
  rw [ofText, close, ofLines_eq, hp, putAll_withDraft, ← ofDrafts_append]
  exact ofDrafts_withDraft (Draft.ofText s)

end Drafts

section Sheet

theorem desk_ofText (s : Text) :
    (ofText s).desk = ({} : Desk).putRecords ((Sheet.ofText s).map Record.kept) := by
  rw [ofText_eq, ofDrafts, ← Statement.ofText_eq_map, desk_putAll, putSheet,
    putAttrs_of_dropped (.inl rfl)]
  rfl

theorem layout_ofText (s : Text) :
    (ofText s).desk.layout = (({} : Desk).putRecords (Sheet.ofText s)).layout := by
  rw [desk_ofText, Desk.layout_putRecords_kept rfl rfl rfl]

theorem memos_ofText (s : Text) : (ofText s).desk.memos = Memo.ofText s := by
  rw [desk_ofText, Desk.Valid.nil.memos_putRecords, List.map_map]
  simp [Memo.ofText, Function.comp_def, Record.memo_kept, Desk.memos]

end Sheet

end Scan
end MemoBase
