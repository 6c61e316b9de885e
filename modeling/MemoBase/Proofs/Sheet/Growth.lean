import MemoBase.Proofs.Sheet.Concatenation

namespace MemoBase

open Text

-- The list goes on with the memos of another one. Only the last of them may have changed.
structure Memo.Grown (ms ms' : List Memo) : Prop where
  length  : ms.length ≤ ms'.length
  earlier : ms.dropLast <+: ms'
  last    : ∀ m ∈ ms.getLast?, ∃ m' ∈ ms'[ms.length - 1]?, m'.collection = m.collection

-- A line of the text is a header of the collection of includes, if it does not stand in a block.
def Text.MentionsInclude (s : Text) : Prop :=
  ∃ raw ∈ s.lines, ∃ l ∈ Line.read? raw.trim,
    l.mark = .header ∧ l.sep = [] ∧ l.key = Sheet.includeCollection

instance (s : Text) : Decidable s.MentionsInclude :=
  inferInstanceAs (Decidable (∃ raw ∈ s.lines, ∃ l ∈ Line.read? raw.trim,
    l.mark = .header ∧ l.sep = [] ∧ l.key = Sheet.includeCollection))

namespace Memo.Grown

variable {m m' : Memo} {ms ms' ms'' : List Memo}

theorem nil : Grown [] ms where
  length  := Nat.zero_le _
  earlier := List.nil_prefix
  last    := nofun

theorem concat (h : m'.collection = m.collection) : Grown (ms ++ [m]) (ms ++ m' :: ms') where
  length  := by simp
  earlier := by simp
  last    := by simpa using h

theorem append (h : Grown ms ms') : Grown ms (ms' ++ ms'') where
  length  := h.length.trans (by simp)
  earlier := h.earlier.trans (List.prefix_append ms' ms'')
  last    := by
    intro m hm
    have ⟨m', hm', hc⟩ := h.last m hm
    exact ⟨m', by rwa [Option.mem_def, List.getElem?_append_left (List.getElem?_eq_some_iff.mp hm').choose], hc⟩

end Memo.Grown

-- The collection of the record that a statement opens.
def Statement.collection? : Statement → Option Text
  | header key _    => some key
  | data .. | attr .. => none

namespace Sheet

variable {x y : Sheet} {ss : List Statement}

theorem records_cons_of_collection? {st : Statement} (h : st.collection? = none) (x : Sheet) :
    (cons st x).records = x.records := by
  cases st
  case header      => contradiction
  case data | attr => rfl

-- A header parts the statements above it from all that comes below.
theorem grown_header (key : Text) (v v' : Value) (hx : x.records = []) (ss : List Statement) :
    Memo.Grown ((ss.foldr cons (cons (.header key v) x)).records.map Record.memo)
      ((ss.foldr cons (cons (.header key v') y)).records.map Record.memo) := by
  simp only [cons, foldr_cons_records, hx, List.map_append, List.map_cons, List.map_nil]
  exact .concat rfl

-- The same statements in front of different ends. The induction goes from the last of the statements
-- up to the last header.
theorem grown_foldr (hx : x.records = []) (ss : List Statement) :
    Memo.Grown ((ss.foldr cons x).records.map Record.memo)
      ((ss.foldr cons y).records.map Record.memo) := by
  induction ss using List.reverseRecOn generalizing x y
  case nil =>
    rw [List.foldr_nil, hx]
    exact .nil
  case append_singleton ss st hi =>
    rw [List.foldr_append, List.foldr_append]
    cases st
    case header key v => exact grown_header key v v hx ss
    case data | attr  => exact hi hx

theorem collections_ofStatements (ss : List Statement) :
    (ofStatements ss).records.map (·.collection) = ss.filterMap Statement.collection? := by
  induction ss
  case nil => rfl
  case cons st ss hi =>
    cases st
    case header key v => exact congrArg (key :: ·) hi
    case data | attr  => exact hi

end Sheet

namespace Draft

variable {d : Draft}

theorem collection?_finish (d : Draft) :
    d.finish.collection? = if d.line.mark = .header then some d.line.key else none := by
  unfold finish
  cases d.line.mark <;> rfl

end Draft

variable {s t : Text}

namespace Statement

variable {d : Draft} {ls : List Text}

-- The lines that continue a value open nothing by themselves.
theorem opened?_of_continues (h : continues s) : opened? s = none := by
  cases hl : Line.read? s
  case none   => simp [opened?, hl]
  case some l => simp [continues_of_read? hl] at h

theorem exists_ofLines_some_of_inline (hd : d.delim? = none) (ls : List Text) :
    ∃ parts, ofLines (some d) ls = Draft.finish { d with parts } :: ofLines none ls := by
  induction ls generalizing d
  case nil => exact ⟨d.parts, rfl⟩
  case cons raw ls hi =>
    cases hc : continues raw.trim
    case false =>
      have hd : ∀ d' ∈ some d, d'.delim? = none := fun _ h => Option.some.inj h ▸ hd
      exact ⟨d.parts, ofLines_turn hd hc⟩
    case true =>
      have ⟨parts, h⟩ := hi (d := d.add raw.trim) hd
      refine ⟨parts, ?_⟩
      simp only [ofLines, step, hd, hc, if_true, opened?_of_continues hc, List.nil_append]
      exact h

theorem collection?_of_opened? (h : d ∈ opened? s) {key : Text}
    (hk : d.finish.collection? = some key) :
    ∃ l ∈ Line.read? s, l.mark = .header ∧ l.sep = [] ∧ l.key = key := by
  simp only [opened?, Option.mem_def, Option.bind_eq_some_iff, Option.ite_none_right_eq_some,
    Option.some.injEq] at h
  obtain ⟨l, hl, hw, hd⟩ := h
  subst hd
  simp only [Draft.collection?_finish, Option.ite_none_right_eq_some, Option.some.injEq] at hk
  have hm : l.mark = .header := hk.left
  exact ⟨l, hl, hm, hw.resolve_right (by simp [hm]), hk.right⟩

-- Every collection comes of the draft that is open or of a line.
theorem forall_collection?_ofLines {d? : Option Draft} {key : Text}
    (hp : ∀ d ∈ d?, d.finish.collection? ≠ some key)
    (ho : ∀ raw ∈ ls, ∀ d ∈ opened? raw.trim, d.finish.collection? ≠ some key) :
    ∀ st ∈ ofLines d? ls, st.collection? ≠ some key := by
  have ha (d : Draft) (part : Text) : (d.add part).finish.collection? = d.finish.collection? := by
    simp only [Draft.collection?_finish, Draft.add]
  obtain ⟨hf, hl⟩ := Draft.forall_scan ho (fun raw _ d hd => by simpa only [ha, and_self]) hp
  rw [ofLines_eq_map]
  exact List.forall_mem_map.mpr (List.forall_mem_append.mpr ⟨hf, by simpa using hl⟩)

theorem ofText_eq_append (s : Text) :
    ofText s = (Draft.finished none s.lines).map Draft.finish ++
      ofLines (Draft.pending none s.lines) [] := by
  have := ofLines_append none s.lines []
  rwa [List.append_nil] at this

theorem exists_ofText_append_feed (s t : Text) :
    ∃ ls, (ls = t.lines ∨ ls = [] :: t.lines) ∧
      ofText (s ++ '\n' :: t) = (Draft.finished none s.lines).map Draft.finish ++
        ofLines (Draft.pending none s.lines) ls := by
  rcases lines_append_feed_cases s t with h | h
  case inl => exact ⟨_, .inl rfl, by rw [ofText, h, ofLines_append]⟩
  case inr => exact ⟨_, .inr rfl, by rw [ofText, h, ofLines_append]⟩

end Statement

-- Whatever the text ends in, the text below it cannot reach any record but the last.
theorem Memo.grown_ofText (s t : Text) : Grown (ofText s) (ofText (s ++ '\n' :: t)) := by
  obtain ⟨ls, _, h⟩ := Statement.exists_ofText_append_feed s t
  simp only [ofText, Sheet.ofText, Sheet.ofStatements, h, Statement.ofText_eq_append s,
    List.foldr_append]
  cases Draft.pending none s.lines
  case none => exact Sheet.grown_foldr rfl _
  case some d =>
    obtain ⟨parts, ss, h⟩ := Statement.exists_ofLines_some d ls
    rw [h]
    cases hm : d.line.mark
    case header =>
      simp only [Statement.ofLines, Option.map_some, Option.toList_some, List.foldr_cons,
        Draft.finish, hm]
      exact Sheet.grown_header _ _ _ rfl _
    case data | attr =>
      refine Sheet.grown_foldr (Sheet.records_cons_of_collection? ?_ _) _
      simp [Draft.collection?_finish, hm]

namespace Text

theorem standalone_iff :
    s.Standalone ↔ ∀ st ∈ Statement.ofText s, st.collection? ≠ some Sheet.includeCollection := by
  have h := Sheet.collections_ofStatements (Statement.ofText s)
  have hm : Sheet.includeCollection ∈ (Memo.ofText s).map Memo.collection ↔
      Sheet.includeCollection ∈ (Statement.ofText s).filterMap Statement.collection? := by
    rw [← h, Memo.ofText, List.map_map]
    rfl
  simp only [List.mem_map, List.mem_filterMap] at hm
  simp only [Standalone, ne_eq]
  grind

-- A block that is still open can be closed by the text below, which then shows what its own blocks
-- hold. Otherwise no header appears that was not there before.
theorem Standalone.append_feed_of_not_mentions (hs : s.Standalone) (ht : t.Standalone)
    (h : ¬(s.EndsInBlock ∧ t.MentionsInclude)) : Standalone (s ++ '\n' :: t) := by
  rw [standalone_iff] at hs ht ⊢
  obtain ⟨ls, hl, ha⟩ := Statement.exists_ofText_append_feed s t
  rw [Statement.ofText_eq_append, List.forall_mem_append] at hs
  obtain ⟨hf, hp⟩ := hs
  rw [ha]
  apply List.forall_mem_append.mpr ⟨hf, _⟩
  by_cases he : s.EndsInBlock
  case pos =>
    apply Statement.forall_collection?_ofLines
    case hp =>
      intro d hd
      rw [Option.mem_def.mp hd] at hp
      exact hp d.finish List.mem_cons_self
    case ho =>
      intro raw hr d hd hc
      have hi := Statement.collection?_of_opened? hd hc
      have hr : raw = [] ∨ raw ∈ t.lines := by
        cases hl
        case inl hl => exact .inr (hl ▸ hr)
        case inr hl => exact List.mem_cons.mp (hl ▸ hr)
      cases hr
      case inl hr =>
        subst hr
        contradiction
      case inr hr => exact h ⟨he, raw, hr, hi⟩
  case neg =>
    have hb : ∀ d ∈ Draft.pending none s.lines, d.delim? = none := by
      simpa [EndsInBlock] using he
    have hn : Statement.ofLines none ls = Statement.ofText t := by
      cases hl
      case inl hl => rw [hl, Statement.ofText]
      case inr hl => rw [hl, Statement.ofLines_blank, Statement.ofText]
    cases hd : Draft.pending none s.lines
    case none => rwa [hn]
    case some d =>
      rw [hd] at hp hb
      obtain ⟨parts, hi⟩ := Statement.exists_ofLines_some_of_inline (hb d rfl) ls
      have hd := hp d.finish List.mem_cons_self
      rw [Draft.collection?_finish] at hd
      rw [hi, hn]
      exact List.forall_mem_cons.mpr ⟨by rwa [Draft.collection?_finish], ht⟩

end Text

namespace Disk

theorem grown_of_readText {d : Disk} {dir : Path} {ms : List Memo}
    (h : (d.readText dir (s ++ '\n' :: t)).memos = .ok ms) : Memo.Grown (Memo.ofText s) ms := by
  have ⟨gs, _, hm, _⟩ := expand_succeeds_iff_yields.mp ⟨h, rfl⟩
  exact hm ▸ (Memo.grown_ofText s t).append

-- Reading can only break off at an include that the text below sets free from a block of its own.
theorem memos_readText_grown (d : Disk) (dir : Path) (hs : s.Standalone) (ht : t.Standalone) :
    ∃ ms, (d.readText dir s).memos = .ok ms ∧
      ((∃ ms', (d.readText dir (s ++ '\n' :: t)).memos = .ok ms' ∧ Memo.Grown ms ms') ∨
        (∃ e, (d.readText dir (s ++ '\n' :: t)).memos = .error e) ∧
          s.EndsInBlock ∧ t.MentionsInclude) := by
  refine ⟨Memo.ofText s, memos_readText_of_standalone hs, ?_⟩
  cases h : (d.readText dir (s ++ '\n' :: t)).memos
  case ok ms' => exact .inl ⟨ms', rfl, grown_of_readText h⟩
  case error e =>
    refine .inr ⟨⟨e, rfl⟩, ?_⟩
    by_contra hc
    have hr : (d.readText dir (s ++ '\n' :: t)).memos = .ok _ :=
      memos_readText_of_standalone (hs.append_feed_of_not_mentions ht hc)
    simp [hr] at h

-- The text below closes a block of the last memo, and goes on with an attribute and stray lines.
theorem memos_readText_grown_block :
    let s : Text := "@a x\n.c 1\n@b y\n.body<<E\n p".toList
    let t : Text := "q\nE\n+k v\nstray\n.c<<\n@d z\n.f, u,".toList
    let d : Disk := ⟨⟨['/'], []⟩, []⟩
    let a : Memo := ⟨⟨['a'], .text ['x'], []⟩, [⟨['c'], .text ['1'], []⟩]⟩
    let b (body : String) (attrs : Attrs) : Memo :=
      ⟨⟨['b'], .text ['y'], []⟩, [⟨"body".toList, .block body.toList ['E'], attrs⟩]⟩
    let ms' : List Memo :=
      [a, b "p\nq" [(['k'], .block "v\nstray".toList "EOF".toList)],
        ⟨⟨['d'], .text ['z'], []⟩, [⟨['f'], .text ['u'], []⟩]⟩]
    s.Standalone ∧ t.Standalone ∧ (d.readText d.workingDir s).memos = .ok [a, b "p" []] ∧
    (d.readText d.workingDir (s ++ '\n' :: t)).memos = .ok ms' ∧ Memo.Grown [a, b "p" []] ms' := by
  intro s t d a b ms'
  have hs : s.Standalone := by decide +kernel
  have ht : t.Standalone := by decide +kernel
  have hr : (d.readText d.workingDir s).memos = .ok [a, b "p" []] := by decide +kernel
  have hr' : (d.readText d.workingDir (s ++ '\n' :: t)).memos = .ok ms' := by decide +kernel
  have hn : ¬t.MentionsInclude := by decide +kernel
  have ⟨ms, hm, h⟩ := memos_readText_grown d d.workingDir hs ht
  have ⟨ms'', hm', hg⟩ := h.resolve_right fun h => hn h.right.right
  cases Except.ok.inj (hr.symm.trans hm)
  cases Except.ok.inj (hr'.symm.trans hm')
  exact ⟨hs, ht, hr, hr', hg⟩

-- Neither text includes a file, but the first line of a block closes the block above it, and the
-- next one then names a file that does not exist.
theorem memos_readText_append_missing :
    let s : Text := "@a\n.x<<E".toList
    let t : Text := ".y<<F\nE\n@mr:include b".toList
    let d : Disk := ⟨⟨['/'], []⟩, []⟩
    let a : Memo := ⟨⟨['a'], .text [], []⟩, [⟨['x'], .block [] ['E'], []⟩]⟩
    s.Standalone ∧ t.Standalone ∧ (d.readText d.workingDir s).memos = .ok [a] ∧
    (d.readText d.workingDir (s ++ '\n' :: t)).memos =
      .error (.fault .notFound ⟨['/'], [['b']]⟩) := by
  decide +kernel

end Disk
end MemoBase
