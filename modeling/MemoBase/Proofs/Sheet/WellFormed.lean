import MemoBase.Proofs.Memo.Attrs
import MemoBase.Proofs.Memo.WellFormed
import MemoBase.Proofs.Sheet.Inclusion
import MemoBase.Proofs.Sheet.Line
import MemoBase.Proofs.Sheet.Scan

namespace MemoBase

open Text

namespace Draft

structure WellFormed (d : Draft) : Prop where
  key   : Node.isKey d.line.key
  line  : d.line.WellFormed
  delim : ∀ delim ∈ d.delim?, delim.IsDelim
  parts : ∀ p ∈ d.parts, Unbroken p

variable {d : Draft} {s : Text}

section Scan

theorem opening_of_mem_parts {l : Line} {p : Text} (h : p ∈ (ofLine l).parts) :
    l.opening = .inline p := by
  simp only [ofLine] at h
  split at h
  case h_2 hl => rw [hl, List.mem_singleton.mp h]
  all_goals contradiction

theorem wellFormed_ofLine {l : Line} (h : Line.read? s = some l) (hs : Unbroken s)
    (hw : l.WellFormed) : (ofLine l).WellFormed := by
  have ⟨rest, he, hk, _, _, _, ho⟩ := Line.read?_eq_some_iff.mp h
  refine ⟨hk, hw, ?delim, ?parts⟩
  case delim =>
    intro delim hd
    rcases Line.opening?_spec ho with ⟨delim', hb, hs⟩ | hi
    case inl =>
      simp only [delim?, ofLine, hb, Option.mem_def, Option.some.injEq] at hd
      exact hd ▸ hs
    case inr => simp [delim?, ofLine, hi] at hd
  case parts =>
    intro p hp
    rcases Line.opening?_spec ho with ⟨delim, hb, _⟩ | hi
    case inl => simp [opening_of_mem_parts hp] at hb
    case inr =>
      have hp : p = rest.trim := by simpa [opening_of_mem_parts hp] using hi
      intro c hc
      exact hs c (by simp [he, mem_of_mem_trim (hp ▸ hc)])

theorem wellFormed_of_opened? (hs : Unbroken s) (h : d ∈ Statement.opened? s) : d.WellFormed := by
  simp only [Statement.opened?, Option.mem_def, Option.bind_eq_some_iff,
    Option.ite_none_right_eq_some, Option.some.injEq] at h
  obtain ⟨l, hl, hw, hd⟩ := h
  exact hd ▸ wellFormed_ofLine hl hs hw

theorem WellFormed.add {p : Text} (h : d.WellFormed) (hp : Unbroken p) : (d.add p).WellFormed where
  key   := h.key
  line  := h.line
  delim := h.delim
  parts := List.forall_mem_append.mpr ⟨h.parts, List.forall_mem_singleton.mpr hp⟩

theorem wellFormed_of_mem_ofText : ∀ d ∈ ofText s, d.WellFormed := by
  have ht {raw : Text} (h : Unbroken raw) : Unbroken raw.trim := fun c hc => h c (mem_of_mem_trim hc)
  apply forall_ofText
  case ho => exact fun raw hr d => wellFormed_of_opened? (ht (unbroken_of_mem_lines raw hr))
  case ha =>
    intro raw hr d hd
    have hr := unbroken_of_mem_lines raw hr
    exact ⟨hd.add hr, hd.add (ht hr)⟩

end Scan

section Values

theorem trim_text (d : Draft) : d.text.trim = d.text :=
  trim_trim _

theorem WellFormed.onlyFeeds_text (h : d.WellFormed) : OnlyFeeds d.text :=
  fun c hc => onlyFeeds_joinLines h.parts c (mem_of_mem_trim hc)

theorem WellFormed.value (h : d.WellFormed) : d.value.WellFormed := by
  unfold Draft.value
  split
  case h_1 delim hd => exact ⟨d.trim_text, h.onlyFeeds_text, h.delim delim hd⟩
  case h_2          => exact Value.wellFormed_ofText d.trim_text h.onlyFeeds_text

-- The values of a line with a separator are the pieces of its text that are not blank.
theorem exists_of_mem_values {v : Value} (h : v ∈ d.values) :
    ∃ p : Text, v = .ofText p.trim none ∧ p.trim ≠ [] ∧ ∀ c ∈ p, c ∈ d.text := by
  simp only [values, List.mem_map, List.mem_filter, decide_eq_true_eq] at h
  have ⟨_, ⟨⟨p, hp, ht⟩, hn⟩, hv⟩ := h
  subst ht
  exact ⟨p, hv.symm, hn, mem_of_mem_segments p hp⟩

theorem WellFormed.values (h : d.WellFormed) : ∀ v ∈ d.values, v.WellFormed := by
  intro v hv
  have ⟨p, he, _, hp⟩ := exists_of_mem_values hv
  subst he
  exact Value.wellFormed_ofText (trim_trim p) fun c hc => h.onlyFeeds_text c (hp c (mem_of_mem_trim hc))

theorem plain_ne_nil_of_mem_values {v : Value} (h : v ∈ d.values) : v.plain ≠ [] := by
  have ⟨p, he, hn, _⟩ := exists_of_mem_values h
  rwa [he, Value.plain_ofText]

end Values

end Draft

def Statement.WellFormed : Statement → Prop
  | header key v | attr key v => Node.isKey key ∧ v.WellFormed
  | data key vs               => Node.isKey key ∧ ∀ v ∈ vs, v.WellFormed

theorem Draft.WellFormed.finish {d : Draft} (h : d.WellFormed) : d.finish.WellFormed := by
  unfold Draft.finish
  split
  case h_1 | h_2 => exact ⟨h.key, h.value⟩
  case h_3 =>
    refine ⟨h.key, ?_⟩
    split
    case isTrue  => exact List.forall_mem_singleton.mpr h.value
    case isFalse => exact h.values

theorem Statement.wellFormed_of_mem_ofText {s : Text} : ∀ st ∈ ofText s, st.WellFormed := by
  rw [ofText_eq_map]
  exact List.forall_mem_map.mpr fun d hd => (Draft.wellFormed_of_mem_ofText d hd).finish

namespace Sheet

structure WellFormed (s : Sheet) : Prop where
  attrs   : ∀ a ∈ s.attrs, Node.isKey a.1 ∧ a.2.WellFormed
  entries : ∀ e ∈ s.entries, ∀ n ∈ e.nodes, n.WellFormed
  records : ∀ r ∈ s.records, r.memo.WellFormed

variable {s : Sheet} {st : Statement}

theorem WellFormed.ofPairs (h : s.WellFormed) : (Attrs.ofPairs s.attrs).WellFormed :=
  ⟨Attrs.nodup_ofPairs _, fun a ha => h.attrs a (Attrs.mem_of_mem_ofPairs a ha)⟩

theorem WellFormed.cons (hs : s.WellFormed) (h : st.WellFormed) : (cons st s).WellFormed := by
  cases st
  case attr key v => exact ⟨List.forall_mem_cons.mpr ⟨h, hs.attrs⟩, hs.entries, hs.records⟩
  case data key vs =>
    refine ⟨nofun, List.forall_mem_cons.mpr ⟨?_, hs.entries⟩, hs.records⟩
    exact List.forall_mem_map.mpr fun v hv => ⟨h.left, h.right v hv, hs.ofPairs⟩
  case header key v =>
    refine ⟨nofun, nofun, List.forall_mem_cons.mpr ⟨?_, hs.records⟩⟩
    refine List.forall_mem_cons.mpr ⟨⟨h.left, h.right, hs.ofPairs⟩, ?_⟩
    exact List.forall_mem_flatMap.mpr hs.entries

theorem wellFormed_ofStatements {ss : List Statement} (h : ∀ st ∈ ss, st.WellFormed) :
    (ofStatements ss).WellFormed := by
  induction ss
  case nil => exact ⟨nofun, nofun, nofun⟩
  case cons st ss hi =>
    have ⟨hs, hss⟩ := List.forall_mem_cons.mp h
    exact (hi hss).cons hs

end Sheet

theorem Memo.wellFormed_of_mem_ofText {s : Text} : ∀ m ∈ ofText s, m.WellFormed :=
  List.forall_mem_map.mpr
    (Sheet.wellFormed_ofStatements Statement.wellFormed_of_mem_ofText).records

namespace Disk

variable {d : Disk} {trail : List Path} {dir p : Path} {s : Text} {ms : List Memo}
  {js : List Rejection}

theorem Adds.wellFormed (h : d.Adds trail p ms js) : ∀ m ∈ ms, m.WellFormed := by
  cases h
  case rejected => nofun
  case accepted => exact Memo.wellFormed_of_mem_ofText

theorem Yields.wellFormed (h : d.Yields trail dir s ms js) : ∀ m ∈ ms, m.WellFormed := by
  have ⟨gs, hg, hm, hj⟩ := h
  subst hm
  clear h hj
  refine List.forall_mem_append.mpr ⟨Memo.wellFormed_of_mem_ofText, ?_⟩
  generalize Sheet.directives dir s = ps at hg
  induction hg
  case nil          => nofun
  case cons ha _ hi => exact List.forall_mem_append.mpr ⟨ha.wellFormed, hi⟩

theorem wellFormed_of_readText (h : (d.readText dir s).memos = .ok ms) : ∀ m ∈ ms, m.WellFormed :=
  (expand_succeeds_iff_yields.mp ⟨h, rfl⟩).wellFormed

theorem wellFormed_of_readSheet (h : (d.readSheet p).memos = .ok ms) : ∀ m ∈ ms, m.WellFormed := by
  cases hr : d.read p
  case error => simp [readSheet, hr, Reading.memos, Reading.fail, Except.map] at h
  case ok s =>
    simp only [readSheet, hr] at h
    exact (expand_succeeds_iff_yields.mp ⟨h, rfl⟩).wellFormed

-- Every statement comes of a draft, so that the third part speaks of all values that lines with a
-- separator give to the memos of a sheet.
theorem memos_wellFormed (d : Disk) :
    (∀ dir s ms, (d.readText dir s).memos = .ok ms → ∀ m ∈ ms, m.WellFormed) ∧
    (∀ p ms, (d.readSheet p).memos = .ok ms → ∀ m ∈ ms, m.WellFormed) ∧
    ∀ s, Statement.ofText s = (Draft.ofText s).map Draft.finish ∧
      ∀ dr ∈ Draft.ofText s, dr.line.sep ≠ [] →
        ∃ vs, dr.finish = .data dr.line.key vs ∧ ∀ v ∈ vs, v.plain ≠ [] := by
  refine ⟨?text, ?sheet, fun s => ⟨Statement.ofText_eq_map s, ?values⟩⟩
  case text  => exact fun dir s ms h => wellFormed_of_readText h
  case sheet => exact fun p ms h => wellFormed_of_readSheet h
  case values =>
    intro dr hd hs
    have hm : dr.line.mark = .data := (Draft.wellFormed_of_mem_ofText dr hd).line.resolve_left hs
    exact ⟨dr.values, by simp [Draft.finish, hm, hs], fun v => Draft.plain_ne_nil_of_mem_values⟩

-- A sheet with a block that does not end and one that it includes, with blanks wherever they may be.
theorem memos_wellFormed_included :
    let sheet := "@mr:include a\n .tag; x ;;\u2003\ty\u2028z\n+note<< E\n\x0c x\ty \n".toList
    let d : Disk := ⟨⟨['/'], []⟩, [([['a']], .file (Text.utf8 "  @b \r\n c".toList))]⟩
    let ms : List Memo :=
      [⟨⟨"mr:include".toList, .text "a".toList, []⟩,
        [⟨"tag".toList, .text "x".toList, [("note".toList, .block "x\ty".toList "E".toList)]⟩,
         ⟨"tag".toList, .block "y\nz".toList "EOF".toList,
           [("note".toList, .block "x\ty".toList "E".toList)]⟩]⟩,
       ⟨⟨"b".toList, .text "c".toList, []⟩, []⟩]
    (d.readText d.workingDir sheet).memos = .ok ms ∧ ∀ m ∈ ms, m.WellFormed := by
  intro sheet d ms
  have h : (d.readText d.workingDir sheet).memos = .ok ms := by decide +kernel
  exact ⟨h, (memos_wellFormed d).left _ _ _ h⟩

end Disk
end MemoBase
