import MemoBase.Proofs.Sheet.RoundTrip
import MemoBase.Proofs.Sheet.WellFormed

namespace MemoBase

open Text

theorem exists_first {α : Type} {p : α → Prop} {l : List α} (h : ∃ a ∈ l, p a) :
    ∃ before a after, l = before ++ a :: after ∧ (∀ b ∈ before, ¬p b) ∧ p a := by
  classical
  have hs : (l.find? fun a => decide (p a)).isSome := by simpa using h
  have ⟨a, ha⟩ := Option.isSome_iff_exists.mp hs
  have ⟨hp, before, after, hl, hb⟩ := List.find?_eq_some_iff_append.mp ha
  exact ⟨before, a, after, hl, by simpa using hb, by simpa using hp⟩

-- The block ends at the first line that closes it.
theorem Row.ofLines_of_not_closable {r : Row} (h : Node.isKey r.key) (hw : r.value.WellFormed)
    (hc : ¬r.value.Closable) (t : Text) :
    ∃ v ss, v ≠ r.value ∧
      Statement.ofLines none (lines (r.text ++ t)) = statement { r with value := v } :: ss := by
  cases hv : r.value <;> rw [hv] at hw hc
  case block s delim =>
    have ⟨_, hs, hd⟩ := hw
    have he : ∃ l ∈ s.splitOn '\n', trimRight l = delim := by
      simp only [Value.Closable, not_forall, not_not] at hc
      obtain ⟨l, hl, he⟩ := hc
      exact ⟨l, mem_splitOn_of_mem_lines hs hl, he⟩
    obtain ⟨before, l, after, hl, hb, he⟩ := exists_first he
    have hn : l ≠ [] := by
      rintro rfl
      exact hd.left he.symm
    have hlt : (joinLines before).trim.length < s.length :=
      calc
        (joinLines before).trim.length ≤ (joinLines before).length := length_trim_le _
        _ < (joinLines (before ++ l :: after)).length := length_joinLines_lt hn before after
        _ = s.length := by rw [← hl, joinLines_splitOn]
    refine ⟨.block (joinLines before).trim delim,
      Statement.ofLines none (after ++ delim :: t.lines), ?shorter, ?read⟩
    case shorter =>
      intro he
      rw [(Value.block.inj he).left] at hlt
      exact lt_irrefl _ hlt
    case read =>
      rw [ofLines_open h hv hs hd, hl, List.append_assoc, List.cons_append,
        Statement.ofLines_block rfl hb he, finish_draft rfl]
      rfl
  case text => exact absurd trivial hc
  all_goals exact hw.elim

section Outline

-- The keys and values of the nodes that a statement stands for, without their attributes.
def Statement.outline : Statement → List (Text × Value)
  | header key v => [(key, v)]
  | data key vs  => vs.map (key, ·)
  | attr ..      => []

def Entry.outline (e : Entry) : List (Text × Value) :=
  e.values.map (e.key, ·)

def Memo.outline (m : Memo) : List (Text × Value) :=
  m.nodes.map fun n => (n.key, n.value)

def Sheet.outline (s : Sheet) : List (Text × Value) :=
  s.entries.flatMap Entry.outline ++ s.records.flatMap (·.memo.outline)

theorem Sheet.outline_cons (st : Statement) (s : Sheet) :
    (cons st s).outline = st.outline ++ s.outline := by
  cases st
  case attr => rfl
  case data => simp [cons, outline, Statement.outline, Entry.outline]
  case header key v =>
    have he (e : Entry) : e.nodes.map (fun n => (n.key, n.value)) = e.outline := by
      simp [Entry.nodes, Entry.outline, Function.comp_def]
    simp [cons, outline, Statement.outline, Memo.outline, Memo.nodes, Record.memo,
      List.map_flatMap, he]

theorem Sheet.outline_ofStatements (ss : List Statement) :
    (ofStatements ss).outline = ss.flatMap Statement.outline := by
  induction ss
  case nil => rfl
  case cons st ss hi =>
    rw [ofStatements] at hi ⊢
    rw [List.foldr_cons, outline_cons, hi, List.flatMap_cons]

-- Nothing is dropped from a sheet that starts with a header.
theorem Memo.outline_ofText {s key : Text} {v : Value} {ss : List Statement}
    (h : Statement.ofText s = .header key v :: ss) :
    (ofText s).flatMap outline = (Statement.ofText s).flatMap Statement.outline := by
  have he : (Sheet.ofStatements (Statement.ofText s)).entries = [] := by
    rw [h]
    rfl
  rw [← Sheet.outline_ofStatements, Sheet.outline, he, ofText, List.flatMap_map]
  rfl

theorem Row.outline_statement {r : Row} (h : r.mark ≠ .attr) :
    r.statement.outline = [(r.key, r.value)] := by
  unfold statement
  split
  case h_1 | h_2 => rfl
  case h_3       => contradiction

theorem Node.outline_rows {n : Node} {k : Mark} (h : k ≠ .attr) :
    (n.rows k).flatMap (·.statement.outline) = [(n.key, n.value)] := by
  have ha : n.attrs.flatMap (fun a => (Row.statement ⟨.attr, a.1, a.2⟩).outline) = [] :=
    List.flatMap_eq_nil_iff.mpr fun _ _ => rfl
  rw [rows, List.flatMap_cons, Row.outline_statement h, List.flatMap_map, ha, List.append_nil]

theorem Memo.outline_rows (m : Memo) : m.rows.flatMap (·.statement.outline) = m.outline := by
  have hh := Node.outline_rows (n := m.header) (k := .header) nofun
  have hd : (m.data.flatMap fun n => (n.rows .data).flatMap (·.statement.outline)) =
      m.data.map fun n => (n.key, n.value) := by
    rw [List.map_eq_flatMap]
    exact List.flatMap_congr fun n _ => Node.outline_rows nofun
  rw [rows, List.flatMap_append, hh, List.flatMap_assoc, hd]
  rfl

end Outline

namespace Memo

variable {ms : List Memo}

theorem forall_mem_rows_wellFormed (h : ∀ m ∈ ms, m.WellFormed) :
    ∀ r ∈ ms.flatMap rows, Node.isKey r.key ∧ r.value.WellFormed := by
  refine List.forall_mem_flatMap.mpr fun m hm => forall_mem_rows fun n hn => ?_
  have hw := h m hm n hn
  exact ⟨fun k _ => ⟨hw.key, hw.value⟩, hw.attrs.right⟩

theorem forall_mem_rows_closable (h : ∀ m ∈ ms, ∀ n ∈ m.nodes, ∀ a ∈ n.attrs, a.2.Closable) :
    ∀ r ∈ ms.flatMap rows, r.mark = .attr → r.value.Closable := by
  refine List.forall_mem_flatMap.mpr fun m hm => forall_mem_rows fun n hn => ?_
  exact ⟨fun k hk he => absurd he hk, fun a ha _ => h m hm n hn a ha⟩

theorem exists_mem_rows {m : Memo} {n : Node} (hm : m ∈ ms) (hn : n ∈ m.nodes) :
    ∃ r ∈ ms.flatMap rows, r.value = n.value := by
  have ⟨r, hr, he⟩ : ∃ r ∈ m.rows, r.value = n.value := by
    cases List.mem_cons.mp hn
    case inl he => exact ⟨_, List.mem_append_left _ List.mem_cons_self, by rw [he]⟩
    case inr hn =>
      have hr : ⟨.data, n.key, n.value⟩ ∈ n.rows .data := List.mem_cons_self
      exact ⟨_, List.mem_append_right _ (List.mem_flatMap.mpr ⟨n, hn, hr⟩), rfl⟩
  exact ⟨r, List.mem_flatMap.mpr ⟨m, hm, hr⟩, he⟩

-- What the written form is read as up to the first block that is closed early.
theorem exists_ofText_writeAll {before after : List Row} {r : Row}
    (hr : ms.flatMap rows = before ++ r :: after)
    (hw : ∀ r ∈ ms.flatMap rows, Node.isKey r.key ∧ r.value.WellFormed)
    (hb : ∀ r ∈ before, r.value.Closable) (hc : ¬r.value.Closable) :
    ∃ v ss, v ≠ r.value ∧ Statement.ofText (writeAll ms) =
      (before ++ [{ r with value := v }]).map Row.statement ++ ss := by
  rw [hr] at hw
  have ⟨hwb, hwa⟩ := List.forall_mem_append.mp hw
  have ⟨hk, hv⟩ := hwa r List.mem_cons_self
  have hb : ∀ r ∈ before, r.Readable := by
    intro r hr
    have ⟨hk, hv⟩ := hwb r hr
    have ⟨ht, hv⟩ := Value.wellFormed_iff.mp ⟨hv, hb r hr⟩
    exact ⟨hk, hv, ht⟩
  have ⟨v, ss, hn, hs⟩ := Row.ofLines_of_not_closable hk hv hc (after.flatMap Row.text)
  refine ⟨v, ss, hn, ?_⟩
  rw [writeAll_eq_flatMap, hr, List.flatMap_append, List.flatMap_cons, Statement.ofText,
    Row.ofLines_flatMap_text Row.text_fresh hb, hs]
  simp

-- The first row that is not read back is a header or a data node, so that its value shows in the
-- outline of the memos that are read.
theorem closable_of_isPrefix (hw : ∀ m ∈ ms, m.WellFormed)
    (ha : ∀ m ∈ ms, ∀ n ∈ m.nodes, ∀ a ∈ n.attrs, a.2.Closable)
    (hp : ofText (writeAll ms) <+: ms) : ∀ r ∈ ms.flatMap rows, r.value.Closable := by
  by_contra he
  simp only [not_forall, exists_prop] at he
  have ⟨before, r, after, hr, hb, hc⟩ := exists_first he
  have ⟨v, ss, hn, hs⟩ := exists_ofText_writeAll hr (forall_mem_rows_wellFormed hw)
    (fun r hr => not_not.mp (hb r hr)) hc
  have hm : r.mark ≠ .attr := fun he => hc (forall_mem_rows_closable ha r (by simp [hr]) he)
  have hh : ∃ key v ss, Statement.ofText (writeAll ms) = .header key v :: ss := by
    cases ms
    case nil => simp at hr
    case cons m ms =>
      rw [hs]
      cases before <;> cases (List.cons.inj hr).left <;> exact ⟨_, _, _, rfl⟩
  have ⟨_, _, _, hh⟩ := hh
  have ⟨more, hp⟩ := hp
  have hread : (ofText (writeAll ms)).flatMap outline = before.flatMap (·.statement.outline) ++
      (r.key, v) :: ss.flatMap Statement.outline := by
    rw [outline_ofText hh, hs]
    simp [List.flatMap_map, Row.outline_statement, hm]
  have hwritten : ms.flatMap outline = before.flatMap (·.statement.outline) ++
      (r.key, r.value) :: after.flatMap (·.statement.outline) := by
    have ho : ms.flatMap outline = (ms.flatMap rows).flatMap (·.statement.outline) := by
      rw [List.flatMap_assoc]
      exact List.flatMap_congr fun m _ => m.outline_rows.symm
    simp [ho, hr, Row.outline_statement, hm]
  rw [← hp, List.flatMap_append, hread, List.append_assoc, List.cons_append] at hwritten
  have he := (List.cons.inj (List.append_cancel_left hwritten)).left
  exact hn (Prod.mk.inj he).right

end Memo

namespace Disk

variable {s : Text}

theorem memos_readText_writeAll_of_closable (d : Disk) (dir : Path) (h : s.Standalone)
    (hc : ∀ m ∈ Memo.ofText s, ∀ n ∈ m.nodes, n.value.Closable ∧ ∀ a ∈ n.attrs, a.2.Closable) :
    (d.readText dir (Memo.writeAll (Memo.ofText s))).memos = .ok (Memo.ofText s) := by
  have hr : ∀ m ∈ Memo.ofText s, m.Representable := by
    intro m hm
    refine ⟨fun n hn => ?_, h m hm⟩
    have ⟨hv, ha⟩ := hc m hm n hn
    exact (Memo.wellFormed_of_mem_ofText m hm n hn).representable hv ha
  have ht : ∀ m ∈ Memo.ofText s, m.reloaded = m := fun m hm =>
    Memo.reloaded_eq_self fun n hn => (Memo.wellFormed_of_mem_ofText m hm n hn).isText
  rw [memos_readText_of_standalone (Memo.standalone_writeAll hr), Memo.ofText_writeAll hr,
    List.map_congr_left ht, List.map_id']

theorem memos_reread_iff (d : Disk) (dir : Path) (h : s.Standalone) :
    ∃ ms, (d.readText dir s).memos = .ok ms ∧
      ((∀ m ∈ ms, ∀ n ∈ m.nodes, ∀ a ∈ n.attrs, a.2.Closable) →
        ((d.readText dir (Memo.writeAll ms)).memos = .ok ms ↔
          ∀ m ∈ ms, ∀ n ∈ m.nodes, n.value.Closable)) := by
  refine ⟨Memo.ofText s, memos_readText_of_standalone h, fun ha => ⟨?mp, ?mpr⟩⟩
  case mp =>
    intro hr m hm n hn
    have ⟨gs, _, he, _⟩ := expand_succeeds_iff_yields.mp ⟨hr, rfl⟩
    have ⟨r, hr, hv⟩ := Memo.exists_mem_rows hm hn
    exact hv ▸ Memo.closable_of_isPrefix Memo.wellFormed_of_mem_ofText ha ⟨_, he.symm⟩ r hr
  case mpr =>
    intro hv
    exact memos_readText_writeAll_of_closable d dir h fun m hm n hn => ⟨hv m hm n hn, ha m hm n hn⟩

-- Continued values, a block with lines that look like nodes, several values and attributes.
theorem memos_reread_mixed :
    let s : Text := "@note n\n .text\ta\n  EOF-\n.body << E\n  @x\n\n EOF\nE \n".toList ++
      "+k| v\n+k w\n.tags, u,, v\n+l p\nq".toList
    let d : Disk := ⟨⟨['/'], []⟩, []⟩
    let eof : Text := "EOF".toList
    let attrs : Attrs := [("l".toList, .block "p\nq".toList eof)]
    let ms : List Memo :=
      [⟨⟨"note".toList, .text "n".toList, []⟩,
        [⟨"text".toList, .block "a\nEOF-".toList eof, []⟩,
         ⟨"body".toList, .block "@x\n\n EOF".toList "E".toList, [("k".toList, .text "w".toList)]⟩,
         ⟨"tags".toList, .text "u".toList, attrs⟩, ⟨"tags".toList, .text "v".toList, attrs⟩]⟩]
    s.Standalone ∧ (d.readText d.workingDir s).memos = .ok ms ∧
    (∀ m ∈ ms, ∀ n ∈ m.nodes, n.value.Closable ∧ ∀ a ∈ n.attrs, a.2.Closable) ∧
    (d.readText d.workingDir (Memo.writeAll ms)).memos = .ok ms := by
  intro s d eof attrs ms
  have h : s.Standalone := by decide +kernel
  have hr : (d.readText d.workingDir s).memos = .ok ms := by decide +kernel
  have hc : ∀ m ∈ ms, ∀ n ∈ m.nodes, n.value.Closable ∧ ∀ a ∈ n.attrs, a.2.Closable := by
    decide +kernel
  have ⟨ms', hr', hi⟩ := memos_reread_iff d d.workingDir h
  cases Except.ok.inj (hr.symm.trans hr')
  have hv := (hi fun m hm n hn => (hc m hm n hn).right).mpr fun m hm n hn => (hc m hm n hn).left
  exact ⟨h, hr, hc, hv⟩

-- A value that is continued over a line with the default delimiter.
theorem memos_reread_cut_short :
    let s : Text := "@note n\n.text a\nEOF\nb".toList
    let d : Disk := ⟨⟨['/'], []⟩, []⟩
    let memo (v : String) : Memo :=
      ⟨⟨"note".toList, .text "n".toList, []⟩, [⟨"text".toList, .block v.toList "EOF".toList, []⟩]⟩
    s.Standalone ∧ (d.readText d.workingDir s).memos = .ok [memo "a\nEOF\nb"] ∧
    (d.readText d.workingDir (Memo.writeAll [memo "a\nEOF\nb"])).memos = .ok [memo "a"] ∧
    [memo "a"] ≠ [memo "a\nEOF\nb"] := by
  decide +kernel

end Disk
end MemoBase
