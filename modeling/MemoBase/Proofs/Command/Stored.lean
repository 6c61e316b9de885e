import MemoBase.Command.Lookup
import MemoBase.Proofs.Query.Overrun
import MemoBase.Proofs.Sheet.Concatenation
import MemoBase.Proofs.Sheet.Inline

namespace MemoBase

open Text

section Entries

variable {s name query : Text}

namespace MemoFilter

theorem isKey_filterCollection : Node.isKey filterCollection := by
  decide

theorem isKey_queryKey : Node.isKey queryKey := by
  decide

-- A sheet that keeps a query under a name.
def entry (name query : Text) : Text :=
  '@' :: filterCollection ++ ' ' :: name ++ '\n' :: ('.' :: queryKey ++ ' ' :: query)

variable (hn : name.Inline) (hq : query.Inline)

-- The rows of such a sheet.
def entryRows (name query : Text) : List Row :=
  [⟨.header, filterCollection, .text name⟩, ⟨.data, queryKey, .text query⟩]

theorem entry_eq (name query : Text) :
    entry name query = joinLines ((entryRows name query).map Row.line) := by
  simp [entry, entryRows, joinLines, join, Row.line, Row.head, Mark.char, Value.display]

include hn hq in
theorem inline_entryRows : ∀ r ∈ entryRows name query, r.Inline := by
  simp only [entryRows, List.forall_mem_cons, List.not_mem_nil, false_imp_iff, implies_true, and_true]
  exact ⟨⟨isKey_filterCollection, name, rfl, hn⟩, isKey_queryKey, query, rfl, hq⟩

include hn hq in
theorem ofText_entry :
    Statement.ofText (entry name query) =
      [.header filterCollection (.text name), .data queryKey [.text query]] := by
  rw [entry_eq, Row.ofText_map_line (inline_entryRows hn hq)]
  rfl

include hn hq in
theorem memo_entry :
    Memo.ofText (entry name query) =
      [⟨⟨filterCollection, .text name, []⟩, [⟨queryKey, .text query, []⟩]⟩] := by
  rw [Memo.ofText, Sheet.ofText, ofText_entry hn hq]
  rfl

include hn hq in
theorem opensRecord_entry : (entry name query).OpensRecord := by
  let h : Row := ⟨.header, filterCollection, .text name⟩
  have ho : Statement.opened? (h.head ++ ' ' :: name).trim = some (h.draft (.inline name)) :=
    Row.opened?_inline isKey_filterCollection hn
  have ⟨l, hl, ho⟩ := Option.bind_eq_some_iff.mp ho
  have ⟨_, hd⟩ := Option.ite_none_right_eq_some.mp ho
  have hd : l = _ := congrArg Draft.line (Option.some.inj hd)
  have he : (entry name query).lines = (entryRows name query).map Row.line := by
    rw [entry_eq, Row.lines_map_line (inline_entryRows hn hq)]
  refine ⟨_, by rw [he]; rfl, l, hl, ?_⟩
  rw [hd]
  exact ⟨rfl, rfl⟩

include hn hq in
theorem standalone_entry : (entry name query).Standalone := by
  have : filterCollection ≠ Sheet.includeCollection := by decide
  rw [Standalone, memo_entry hn hq, List.forall_mem_singleton]
  exact this

end MemoFilter
end Entries

section Lookups

variable {s t name query : Text} {f : MemoFilter} {ms : List Memo}

theorem Memo.find?_append_of_not_mem {collection title : Text} (ms' : List Memo)
    (h : ∀ m ∈ ms, m.collection = collection → m.title ≠ title) :
    find? (ms ++ ms') collection title = find? ms' collection title := by
  have hn : ms.find? (fun m => m.collection = collection ∧ m.title = title) = none := by
    simpa using h
  rw [find?, List.find?_append, hn, Option.none_or, find?]

namespace MemoFilter

-- No query begins like the opening of a block.
theorem ofQuery_angle (s : Text) : ∃ e, ofQuery ('<' :: s) = .error e := by
  have ht : trimLeft ('<' :: s) = '<' :: s := dropWhile_eq_self (Stops.cons.mpr (by decide))
  have hk : Node.isKeyStart '<' = false := by decide
  have hc : Query.condition ('<' :: s) = .error ⟨.noKey, '<' :: s⟩ := by
    simp [Query.condition, Query.scope, Query.key, Node.readKey?, hk]
  have hr := Query.conditions_eq_error_iff.mpr (.inl hc)
  rw [ofQuery, Query.read, ht, if_neg (by simp), hr]
  exact ⟨_, rfl⟩

theorem inline_of_ofQuery (hf : ofQuery query = .ok f) (hq : query.FitsLine) : query.Inline where
  fits := hq
  ne_nil := by
    rintro rfl
    simp [ofQuery, Query.read, trimLeft] at hf
  plain := by
    rw [Bool.eq_false_iff]
    intro hp
    obtain ⟨s, hs⟩ := List.isPrefixOf_iff_prefix.mp hp
    obtain ⟨e, he⟩ := ofQuery_angle ('<' :: s)
    have hs : query = '<' :: '<' :: s := hs.symm
    rw [← hs, hf] at he
    contradiction

theorem given_some (hs : s ≠ []) : given (some s) = some s := by
  simp [given, hs]

theorem base_some (b : BaseFilter) (hn : name ≠ []) : base ms b (some name) = named ms name := by
  simp only [base, given_some hn]

-- The filter over all memos adds nothing to a query.
theorem build_all (ms : List Memo) (hf : ofQuery query = .ok f) (hq : query ≠ []) :
    build ms .all none (some query) = .ok f := by
  simp only [build, given_some hq, hf]
  rfl

theorem named_append_entry (ms : List Memo) (hf : ofQuery query = .ok f)
    (hm : ∀ m ∈ ms, m.collection = filterCollection → m.title ≠ name) :
    named (ms ++ [⟨⟨filterCollection, .text name, []⟩, [⟨queryKey, .text query, []⟩]⟩]) name =
      .ok f := by
  rw [named, Memo.find?_append_of_not_mem _ hm]
  simp [Memo.find?, Memo.collection, Memo.title, Value.display, Value.plain, hf]

end MemoFilter

open MemoFilter

-- A query that is kept below a sheet acts as if it were given directly.
theorem Disk.named_readText_entry (d : Disk) (dir : Path) (hq : ofQuery query = .ok f)
    (fits : query.FitsLine) (hn : name.Inline) (ht : t.Standalone) (hb : ¬t.EndsInBlock)
    (hm : ∀ m ∈ Memo.ofText t, m.collection = filterCollection → m.title ≠ name) :
    ∃ ms, (d.readText dir (t ++ '\n' :: entry name query)).memos = .ok ms ∧
      named ms name = .ok f ∧
      ∀ b r?, build ms b (some name) r? = do
        let g ← build ms .all none (some query)
        match given r? with
        | none   => return g
        | some r => return g.and (← (ofQuery r).mapError .query) := by
  have hi := inline_of_ofQuery hq fits
  have ho := opensRecord_entry hn hi
  have hr : (d.readText dir (t ++ '\n' :: entry name query)).memos = .ok _ :=
    memos_readText_of_standalone (ht.append_feed (standalone_entry hn hi) hb ho)
  rw [Memo.ofText_append_feed hb ho, memo_entry hn hi] at hr
  have hf := named_append_entry (Memo.ofText t) hq hm
  refine ⟨_, hr, hf, fun b r? => ?_⟩
  rewrite [build_all _ hq hi.ne_nil, build, base_some b hn.ne_nil, hf]
  rfl

-- The sheet above ends with a value that could go on, and has a filter of another name.
theorem Disk.named_readText_entry_open :
    let t : Text := "@mr:filter b\n.mql x\n@mr:filter\n.tags, u".toList
    let query : Text := ".k~'<<, @', @book[0]".toList
    let d : Disk := ⟨⟨['/'], []⟩, []⟩
    let f : MemoFilter := ⟨[{ scope := .data, key := .equals ['k'], value := .contains "<<, @".toList },
      { scope := .header, key := .equals "book".toList, index := .single 0 }]⟩
    ∃ ms, (d.readText d.workingDir (t ++ '\n' :: entry "a b".toList query)).memos = .ok ms ∧
      named ms "a b".toList = .ok f := by
  intro t query d f
  have hq : ofQuery query = .ok f := by decide +kernel
  have fits : query.FitsLine := by decide +kernel
  have hn : Text.Inline "a b".toList := by decide +kernel
  have ht : t.Standalone := by decide +kernel
  have hb : ¬t.EndsInBlock := by decide +kernel
  have hm : ∀ m ∈ Memo.ofText t, m.collection = filterCollection → m.title ≠ "a b".toList := by
    decide +kernel
  have ⟨ms, hr, hf, _⟩ := named_readText_entry d d.workingDir hq fits hn ht hb hm
  exact ⟨ms, hr, hf⟩

end Lookups
end MemoBase
