import MemoBase.Proofs.Memo.Attrs
import MemoBase.Proofs.Sheet.Inclusion
import MemoBase.Proofs.Sheet.Rows

namespace MemoBase

open Text

theorem Text.joinLines_append_feed {ls : List Text} (h : ls ≠ []) :
    joinLines ls ++ ['\n'] = ls.flatMap (· ++ ['\n']) := by
  rw [joinLines, join_eq_intercalate]
  induction ls
  case nil => contradiction
  case cons l ls hi =>
    cases ls
    case nil  => simp
    case cons => simpa using hi (by simp)

namespace Node

variable {n : Node}

def rows (m : Mark) (n : Node) : List Row :=
  ⟨m, n.key, n.value⟩ :: n.attrs.map fun a => ⟨.attr, a.1, a.2⟩

theorem write_append_feed (m : Mark) : n.write [m.char] ++ ['\n'] = (n.rows m).flatMap Row.text := by
  simp [write, rows, joinLines_append_feed, Row.text, Row.head, Mark.char, List.flatMap_map]

-- What displays a value that is no text never looks like the opening of a block.
theorem line_reloaded (head : Text) (v : Value) : line head v.reloaded = line head v := by
  by_cases ht : v.IsText
  case pos => rw [Value.reloaded_eq_self ht]
  case neg =>
    have hp := Value.display_isPlain ht
    have ho : ¬"<<".toList.isPrefixOf v.display.trimLeft := by
      rw [trimLeft_eq_self_iff.mpr (trim_eq_self_iff.mp hp.fitsLine.left).left]
      intro ho
      have ⟨s, hs⟩ := List.isPrefixOf_iff_prefix.mp ho
      exact (hp '<' (by simp [← hs])).right rfl
    rw [Value.reloaded_eq_text ht, line, if_neg ho]
    cases v
    case text | block => simp [Value.IsText] at ht
    all_goals rfl

theorem write_reloaded (mark : Text) : n.reloaded.write mark = n.write mark := by
  simp [write, reloaded, line_reloaded, Function.comp_def]

end Node

namespace Sheet

variable {s : Sheet}

theorem foldr_cons_attrs (as : Attrs) :
    (as.map fun a => Statement.attr a.1 a.2).foldr cons s = { s with attrs := as ++ s.attrs } := by
  induction as
  case nil => rfl
  case cons a as hi => simp [hi, cons]

end Sheet

-- A node that is the only one of its statement.
def Node.entry (n : Node) : Entry :=
  ⟨n.key, [n.value], n.attrs⟩

theorem Sheet.foldr_cons_rows {n : Node} {s : Sheet} (h : n.attrs.Representable) (hs : s.attrs = []) :
    ((n.rows .data).map Row.statement).foldr cons s = { s with entries := n.entry :: s.entries } := by
  have ha := foldr_cons_attrs (s := s) n.attrs
  simp only [hs, List.append_nil] at ha
  simp [Node.rows, Row.statement, Function.comp_def, ha, cons, Node.entry,
    Attrs.ofPairs_eq_self h.left, hs]

namespace Memo

variable {m : Memo}

def rows (m : Memo) : List Row :=
  m.header.rows .header ++ m.data.flatMap (Node.rows .data)

theorem memo_record (m : Memo) : m.record.memo = m := by
  simp [Record.memo, record, List.flatMap_map, Entry.nodes]

theorem write_eq_flatMap (m : Memo) : m.write = m.rows.flatMap Row.text := by
  have hh := m.header.write_append_feed .header
  have hd : m.data.flatMap (fun n => n.write ['.'] ++ ['\n']) =
      (m.data.flatMap (Node.rows .data)).flatMap Row.text := by
    rw [List.flatMap_assoc]
    exact List.flatMap_congr fun n _ => n.write_append_feed .data
  simp only [Mark.char] at hh
  rw [write, joinLines_append_feed (by simp), List.flatMap_cons, hh, List.flatMap_map, hd, rows,
    List.flatMap_append]

theorem write_reloaded (m : Memo) : m.reloaded.write = m.write := by
  simp [write, reloaded, Node.write_reloaded, Function.comp_def]

theorem forall_mem_rows {p : Row → Prop}
    (h : ∀ n ∈ m.nodes, (∀ k ≠ .attr, p ⟨k, n.key, n.value⟩) ∧ ∀ a ∈ n.attrs, p ⟨.attr, a.1, a.2⟩) :
    ∀ r ∈ m.rows, p r := by
  have hr (k : Mark) (hk : k ≠ .attr) (n : Node) (hn : n ∈ m.nodes) : ∀ r ∈ n.rows k, p r :=
    List.forall_mem_cons.mpr ⟨(h n hn).left k hk, List.forall_mem_map.mpr (h n hn).right⟩
  refine List.forall_mem_append.mpr ⟨hr .header nofun m.header List.mem_cons_self, ?_⟩
  refine List.forall_mem_flatMap.mpr fun n hn => ?_
  exact hr .data nofun n (List.mem_cons_of_mem m.header hn)

theorem readable_of_mem_rows (h : m.Representable) (ht : m.IsText) : ∀ r ∈ m.rows, r.Readable := by
  refine forall_mem_rows fun n hn => ⟨fun k _ => ?value, fun a ha => ?attr⟩
  case value => exact ⟨(h.nodes n hn).key, (h.nodes n hn).value, (ht n hn).left⟩
  case attr =>
    have ⟨hk, hv⟩ := (h.nodes n hn).attrs.right a ha
    exact ⟨hk, hv, (ht n hn).right a ha⟩

end Memo

namespace Sheet

theorem foldr_cons_nodes (rs : List Record) {ns : List Node} (h : ∀ n ∈ ns, n.Representable) :
    ((ns.flatMap (Node.rows .data)).map Row.statement).foldr cons ⟨[], [], rs⟩ =
      ⟨[], ns.map Node.entry, rs⟩ := by
  induction ns
  case nil => rfl
  case cons n ns hi =>
    have hi := hi fun n' hn => h n' (List.mem_cons_of_mem n hn)
    rw [List.flatMap_cons, List.map_append, List.foldr_append, hi,
      foldr_cons_rows (h n List.mem_cons_self).attrs rfl, List.map_cons]

-- Nothing is left waiting above a memo, as its header takes up all that belongs to the memo.
theorem foldr_cons_memo {m : Memo} {rs : List Record} (h : ∀ n ∈ m.nodes, n.Representable) :
    (m.rows.map Row.statement).foldr cons ⟨[], [], rs⟩ = ⟨[], [], m.record :: rs⟩ := by
  have hn := foldr_cons_nodes rs fun n hn => h n (List.mem_cons_of_mem m.header hn)
  have ha := foldr_cons_attrs (s := ⟨[], m.data.map Node.entry, rs⟩) m.header.attrs
  have hp := Attrs.ofPairs_eq_self (h m.header List.mem_cons_self).attrs.left
  rw [Memo.rows, List.map_append, List.foldr_append, hn]
  simp [Node.rows, Row.statement, Function.comp_def, ha, cons, hp, Memo.record, Node.entry]

theorem ofStatements_rows {ms : List Memo} (h : ∀ m ∈ ms, m.Representable) :
    ofStatements ((ms.flatMap Memo.rows).map Row.statement) = ⟨[], [], ms.map Memo.record⟩ := by
  induction ms
  case nil => rfl
  case cons m ms hi =>
    have hi := hi fun m' hm => h m' (List.mem_cons_of_mem m hm)
    rw [ofStatements] at hi ⊢
    rw [List.flatMap_cons, List.map_append, List.foldr_append, hi,
      foldr_cons_memo (h m List.mem_cons_self).nodes, List.map_cons]

end Sheet

namespace Memo

variable {ms : List Memo}

theorem writeAll_reloaded (ms : List Memo) : writeAll (ms.map reloaded) = writeAll ms := by
  simp [writeAll, List.flatMap_map, write_reloaded]

theorem writeAll_eq_flatMap (ms : List Memo) : writeAll ms = (ms.flatMap rows).flatMap Row.text := by
  rw [List.flatMap_assoc]
  exact List.flatMap_congr fun m _ => m.write_eq_flatMap

end Memo

namespace Sheet

variable {ms : List Memo}

theorem ofText_writeAll_of_isText (h : ∀ m ∈ ms, m.Representable) (ht : ∀ m ∈ ms, m.IsText) :
    ofText (Memo.writeAll ms) = ms.map Memo.record := by
  have hr : ∀ r ∈ ms.flatMap Memo.rows, r.Readable :=
    List.forall_mem_flatMap.mpr fun m hm => Memo.readable_of_mem_rows (h m hm) (ht m hm)
  rw [ofText, Memo.writeAll_eq_flatMap, Row.ofText_flatMap_text hr, ofStatements_rows h]

theorem ofText_writeAll (h : ∀ m ∈ ms, m.Representable) :
    ofText (Memo.writeAll ms) = (ms.map Memo.reloaded).map Memo.record := by
  rw [← Memo.writeAll_reloaded]
  apply ofText_writeAll_of_isText
  case h  => exact List.forall_mem_map.mpr fun m hm => (h m hm).reloaded
  case ht => exact List.forall_mem_map.mpr fun m _ => m.isText_reloaded

end Sheet

namespace Memo

variable {ms : List Memo}

theorem ofText_writeAll (h : ∀ m ∈ ms, m.Representable) : ofText (writeAll ms) = ms.map reloaded := by
  simp [ofText, Sheet.ofText_writeAll h, memo_record]

theorem standalone_writeAll (h : ∀ m ∈ ms, m.Representable) : (writeAll ms).Standalone := by
  rw [Text.Standalone, ofText_writeAll h]
  exact List.forall_mem_map.mpr fun m hm => (h m hm).collection

end Memo

namespace Disk

variable {ms : List Memo}

theorem readText_writeAll (d : Disk) (dir : Path) (h : ∀ m ∈ ms, m.Representable) :
    d.readText dir (Memo.writeAll ms) = .own ((ms.map Memo.reloaded).map Memo.record) := by
  rw [readText_of_standalone (Memo.standalone_writeAll h), Sheet.ofText_writeAll h]

theorem memos_readText_writeAll (d : Disk) (dir : Path) (h : ∀ m ∈ ms, m.Representable) :
    (d.readText dir (Memo.writeAll ms)).memos = .ok (ms.map Memo.reloaded) ∧
    (d.readText dir (Memo.writeAll ms)).rejected = [] ∧
    ((∀ m ∈ ms, m.IsText) → (d.readText dir (Memo.writeAll ms)).memos = .ok ms) := by
  have hr : (d.readText dir (Memo.writeAll ms)).memos = .ok (ms.map Memo.reloaded) := by
    simp [readText_writeAll d dir h, Reading.memos, Reading.own, Except.map, Memo.memo_record]
  refine ⟨hr, ?rejected, ?texts⟩
  case rejected => rw [readText_writeAll d dir h, Reading.own]
  case texts =>
    intro ht
    have : ms.map Memo.reloaded = ms.map id :=
      List.map_congr_left fun m hm => Memo.reloaded_eq_self (ht m hm)
    rw [hr, this, List.map_id]

theorem memos_readText_writeAll_marks :
    let attrs : Attrs := [("size".toList, .integer 3), ("mr:id".toList, .text "+1".toList)]
    let text := Value.block "x\n  @y".toList "<EOF".toList
    let m : Memo := ⟨⟨"book".toList, .text "<<open".toList, attrs⟩,
      [⟨"x-1".toList, text, []⟩, ⟨"nan".toList, .number .nan, []⟩, ⟨"empty".toList, .text [], []⟩]⟩
    let d : Disk := ⟨⟨['/'], []⟩, []⟩
    (∀ m' ∈ [m, m], m'.Representable) ∧
    (d.readText d.workingDir (Memo.writeAll [m, m])).memos = .ok [m.reloaded, m.reloaded] ∧
    m.reloaded ≠ m :=
  have h : ∀ m ∈ _, Memo.Representable m := by decide
  ⟨h, (memos_readText_writeAll _ _ h).left, by decide⟩

end Disk
end MemoBase
