import MemoBase.Proofs.Sheet.Inclusion
import MemoBase.Proofs.Sheet.Line
import MemoBase.Proofs.Sheet.Scan

namespace MemoBase

-- The last block of the text is not closed, so that every line below would belong to it.
def Text.EndsInBlock (s : Text) : Prop :=
  ∃ d ∈ Draft.pending none s.lines, d.delim?.isSome

-- The first line of the text is a header.
def Text.OpensRecord (s : Text) : Prop :=
  ∃ raw ∈ s.lines.head?, ∃ l ∈ Line.read? raw.trim, l.mark = .header ∧ l.sep = []

instance (s : Text) : Decidable s.EndsInBlock :=
  inferInstanceAs (Decidable (∃ d ∈ Draft.pending none s.lines, d.delim?.isSome))

instance (s : Text) : Decidable s.OpensRecord :=
  inferInstanceAs (Decidable (∃ raw ∈ s.lines.head?, ∃ l ∈ Line.read? raw.trim,
    l.mark = .header ∧ l.sep = []))

open Text

variable {s t : Text}

namespace Statement

variable {l : Line}

theorem continues_of_read? (h : Line.read? s = some l) : continues s = false := by
  have ⟨rest, hs, _⟩ := Line.read?_eq_some_iff.mp h
  simp [hs, continues, l.mark.isToken_char]

theorem ofLines_blank (ls : List Text) : ofLines none ([] :: ls) = ofLines none ls :=
  rfl

theorem ofText_append_feed (hs : ¬s.EndsInBlock)
    (ht : ∀ raw ∈ t.lines.head?, continues raw.trim = false) :
    ofText (s ++ '\n' :: t) = ofText s ++ ofText t := by
  have hd : ∀ d ∈ Draft.pending none s.lines, d.delim? = none := by
    simpa [EndsInBlock] using hs
  have ho : ofText s = (Draft.finished none s.lines).map Draft.finish ++
      ((Draft.pending none s.lines).map Draft.finish).toList := by
    rw [ofText_eq_map, Draft.ofText, List.map_append, Option.toList_map]
  rw [ho, List.append_assoc, ofText]
  rcases lines_append_feed_cases s t with h | h
  case inl =>
    rw [h, ofLines_append, ofText]
    cases hl : t.lines
    case nil        => simp [ofLines]
    case cons raw _ => rw [ofLines_turn hd (ht raw (by simp [hl]))]
  case inr => rw [h, ofLines_append, ofLines_turn hd rfl, ofLines_blank, ofText]

-- The lines below a draft change nothing of it but its parts.
theorem exists_ofLines_some (d : Draft) (ls : List Text) :
    ∃ parts ss, ofLines (some d) ls = Draft.finish { d with parts } :: ss := by
  induction ls generalizing d
  case nil => exact ⟨d.parts, [], rfl⟩
  case cons raw ls hi =>
    have ha (p : Text) : ∃ parts ss, ofLines (some (d.add p)) ls =
        Draft.finish { d with parts } :: ss := hi (d.add p)
    simp only [ofLines, step]
    split <;> split
    case h_1.isTrue | h_2.isFalse => exact ⟨d.parts, _, rfl⟩
    case h_1.isFalse              => exact ha raw
    case h_2.isTrue               => exact ha raw.trim

theorem exists_ofText_of_opensRecord (h : s.OpensRecord) :
    ∃ key v ss, ofText s = header key v :: ss := by
  have ⟨raw, hr, l, hl, hm, hs⟩ := h
  have ⟨ls, he⟩ := List.head?_eq_some_iff.mp hr
  have ⟨parts, ss, hf⟩ := exists_ofLines_some (.ofLine l) ls
  have ho : opened? raw.trim = some (.ofLine l) := by
    simp [opened?, Option.mem_def.mp hl, Line.WellFormed, hs]
  refine ⟨l.key, Draft.value { Draft.ofLine l with parts }, ss, ?_⟩
  rw [ofText, he, ofLines, step, ho, hf, Draft.finish]
  simp only [Draft.ofLine, hm, List.nil_append]

end Statement

namespace Sheet

variable {ss : List Statement}

theorem foldr_cons_records (rs : List Record) (ss : List Statement) :
    ss.foldr cons ⟨[], [], rs⟩ =
      { ofStatements ss with records := (ofStatements ss).records ++ rs } := by
  induction ss
  case nil => rfl
  case cons st ss hi =>
    rw [List.foldr_cons, hi]
    cases st <;> rfl

theorem ofText_append_feed (hs : ¬s.EndsInBlock) (ht : t.OpensRecord) :
    ofText (s ++ '\n' :: t) = ofText s ++ ofText t := by
  have hc : ∀ raw ∈ t.lines.head?, Statement.continues raw.trim = false := by
    have ⟨raw, hr, l, hl, _⟩ := ht
    intro raw' hr'
    cases Option.mem_unique hr hr'
    exact Statement.continues_of_read? hl
  have ⟨key, v, ss, he⟩ := Statement.exists_ofText_of_opensRecord ht
  -- Nothing is left above the header that would wait for what it belongs to.
  have hh : ofStatements (Statement.ofText t) = ⟨[], [], ofText t⟩ := by
    rw [ofText, he]
    rfl
  rw [ofText, Statement.ofText_append_feed hs hc, ofStatements, List.foldr_append, ← ofStatements,
    hh, foldr_cons_records, ← ofText]

end Sheet

theorem Memo.ofText_append_feed (hs : ¬s.EndsInBlock) (ht : t.OpensRecord) :
    ofText (s ++ '\n' :: t) = ofText s ++ ofText t := by
  rw [ofText, Sheet.ofText_append_feed hs ht, List.map_append, ← ofText, ← ofText]

theorem Text.Standalone.append_feed (hs : s.Standalone) (ht : t.Standalone) (hb : ¬s.EndsInBlock)
    (ho : t.OpensRecord) : Standalone (s ++ '\n' :: t) := by
  rw [Standalone, Memo.ofText_append_feed hb ho]
  exact List.forall_mem_append.mpr ⟨hs, ht⟩

namespace Disk

theorem memos_readText_append (d : Disk) (dir : Path) (hs : s.Standalone) (ht : t.Standalone)
    (hb : ¬s.EndsInBlock) (ho : t.OpensRecord) :
    ∃ ms₁ ms₂, (d.readText dir s).memos = .ok ms₁ ∧ (d.readText dir t).memos = .ok ms₂ ∧
      (d.readText dir (s ++ '\n' :: t)).memos = .ok (ms₁ ++ ms₂) := by
  refine ⟨Memo.ofText s, Memo.ofText t, memos_readText_of_standalone hs,
    memos_readText_of_standalone ht, ?_⟩
  rw [memos_readText_of_standalone (hs.append_feed ht hb ho), Memo.ofText_append_feed hb ho]

-- The first sheet ends with an attribute that may go on and with half of a line break.
theorem memos_readText_append_open :
    let s : Text := "stray\n@a x\n.tags, u, v\n+k p\n  q\r".toList
    let t : Text := "\t@b\n+k r\n.c 1".toList
    let d : Disk := ⟨⟨['/'], []⟩, []⟩
    let shared : Attrs := [("k".toList, .block "p\nq".toList "EOF".toList)]
    let m₁ : Memo := ⟨⟨['a'], .text ['x'], []⟩,
      [⟨"tags".toList, .text ['u'], shared⟩, ⟨"tags".toList, .text ['v'], shared⟩]⟩
    let m₂ : Memo := ⟨⟨['b'], .text [], [("k".toList, .text ['r'])]⟩, [⟨['c'], .text ['1'], []⟩]⟩
    (s.Standalone ∧ t.Standalone ∧ ¬s.EndsInBlock ∧ t.OpensRecord) ∧
    (d.readText d.workingDir (s ++ '\n' :: t)).memos = .ok [m₁, m₂] := by
  intro s t d shared m₁ m₂
  have h : s.Standalone ∧ t.Standalone ∧ ¬s.EndsInBlock ∧ t.OpensRecord := by decide +kernel
  have ⟨hs, ht, hb, ho⟩ := h
  have ⟨ms₁, ms₂, h₁, h₂, ha⟩ := memos_readText_append d d.workingDir hs ht hb ho
  have hm₁ : (d.readText d.workingDir s).memos = .ok [m₁] := by decide +kernel
  have hm₂ : (d.readText d.workingDir t).memos = .ok [m₂] := by decide +kernel
  cases Except.ok.inj (hm₁.symm.trans h₁)
  cases Except.ok.inj (hm₂.symm.trans h₂)
  exact ⟨h, ha⟩

end Disk
end MemoBase
