import Mathlib.Data.Bool.AllAny
import MemoBase.Proofs.Sheet.Concatenation
import MemoBase.Proofs.Sheet.Inline
import MemoBase.Proofs.Text.Segments

namespace MemoBase

open Text

section Sheets

variable {s s' t t' : Text}

-- What a sheet includes shows in its memos.
theorem Sheet.includes_eq (rs : List Record) :
    includes rs =
      ((rs.map Record.memo).filter (·.collection = includeCollection)).map Memo.title := by
  rw [List.filter_map, List.map_map]
  rfl

theorem Reading.memos_own_append (rs : List Record) (r : Reading) :
    ((own rs).append r).memos = r.memos.map (rs.map Record.memo ++ ·) := by
  simp only [append, own, memos]
  cases r.outcome <;> simp [Except.map]

theorem Sheet.expand_congr (follow : Text → Reading) (h : Memo.ofText s = Memo.ofText s') :
    (expand follow s).memos = (expand follow s').memos ∧
      (expand follow s).rejected = (expand follow s').rejected := by
  have hi : includes (ofText s) = includes (ofText s') := by
    rw [includes_eq, ← Memo.ofText, h, Memo.ofText, ← includes_eq]
  constructor
  case left  =>
    rw [expand, expand, Reading.memos_own_append, Reading.memos_own_append, hi, ← Memo.ofText, h,
      Memo.ofText]
  case right => simp only [expand, Reading.append, Reading.own, hi]

namespace Sheet

-- The two sheets have the same nodes, in whatever entries they may stand.
structure Alike (a b : Sheet) : Prop where
  attrs : a.attrs = b.attrs
  nodes : a.entries.flatMap Entry.nodes = b.entries.flatMap Entry.nodes
  memos : a.records.map Record.memo = b.records.map Record.memo

variable {a b : Sheet}

theorem Alike.cons (h : Alike a b) (st : Statement) : Alike (cons st a) (cons st b) := by
  cases st
  case attr   => exact ⟨by simp [Sheet.cons, h.attrs], h.nodes, h.memos⟩
  case data   => exact ⟨rfl, by simp [Sheet.cons, h.attrs, h.nodes], h.memos⟩
  case header => exact ⟨rfl, rfl, by simp [Sheet.cons, Record.memo, h.attrs, h.nodes, h.memos]⟩

theorem Alike.foldr (h : Alike a b) (ss : List Statement) :
    Alike (ss.foldr Sheet.cons a) (ss.foldr Sheet.cons b) := by
  induction ss
  case nil => exact h
  case cons st ss hi => exact hi.cons st

theorem foldr_cons_attr (ps : List (Text × Value)) (a : Sheet) :
    (ps.map fun p => Statement.attr p.1 p.2).foldr cons a = { a with attrs := ps ++ a.attrs } := by
  induction ps
  case nil => rfl
  case cons p ps hi => rw [List.map_cons, List.foldr_cons, hi, cons, List.cons_append]

-- Each of the values has a copy of the attributes.
theorem ofStatements_flatMap (key : Text) (vs : List Value) (ps : List (Text × Value)) :
    ofStatements (vs.flatMap fun v => .data key [v] :: ps.map fun p => .attr p.1 p.2) =
      ⟨[], vs.map fun v => ⟨key, [v], .ofPairs ps⟩, []⟩ := by
  induction vs
  case nil => rfl
  case cons v vs hi =>
    rw [ofStatements] at hi ⊢
    rw [List.flatMap_cons, List.cons_append, List.foldr_cons, List.foldr_append, hi, foldr_cons_attr]
    simp [cons]

theorem alike_data (key : Text) (vs : List Value) (ps : List (Text × Value)) :
    Alike (ofStatements (.data key vs :: ps.map fun p => .attr p.1 p.2))
      (ofStatements (vs.flatMap fun v => .data key [v] :: ps.map fun p => .attr p.1 p.2)) := by
  rw [ofStatements_flatMap, ofStatements, List.foldr_cons, foldr_cons_attr]
  exact ⟨rfl, by simp [cons, Entry.nodes, List.flatMap_map, ← List.map_eq_flatMap], rfl⟩

end Sheet

theorem Memo.ofText_append_congr (hs : ¬s.EndsInBlock) (ht : t.Fresh) (ht' : t'.Fresh)
    (h : (Sheet.ofStatements (Statement.ofText t)).Alike
      (Sheet.ofStatements (Statement.ofText t'))) :
    ofText (s ++ '\n' :: t) = ofText (s ++ '\n' :: t') := by
  have := h.foldr (Statement.ofText s)
  rw [ofText, ofText, Sheet.ofText, Sheet.ofText,
    Statement.ofText_append_feed hs (Statement.continues_of_mem_head_lines ht),
    Statement.ofText_append_feed hs (Statement.continues_of_mem_head_lines ht'), Sheet.ofStatements,
    Sheet.ofStatements, List.foldr_append, List.foldr_append]
  exact this.memos

end Sheets

section Lines

variable {sep : Text} {ps : List Text}

theorem Text.unbroken_spaced (hb : ∀ c ∈ sep, isBlank c = false) : Unbroken (spaced sep) := by
  have : Unbroken [' '] := by simp [Unbroken]; decide
  exact this.append ((Unbroken.of_no_blank hb).append this)

theorem Text.Inline.append_spaced {s t : Text} (hs : s.Inline) (ht : t.Inline)
    (hb : ∀ c ∈ sep, isBlank c = false) : Text.Inline (s ++ (spaced sep ++ t)) where
  fits := by
    refine ⟨trim_append_append hs.fits.left hs.ne_nil ht.fits.left ht.ne_nil _, ?_⟩
    exact hs.fits.right.append ((unbroken_spaced hb).append ht.fits.right)
  ne_nil := by simp [hs.ne_nil]
  plain := by
    have := hs.plain
    rw [Bool.eq_false_iff, Ne, List.isPrefixOf_iff_prefix] at this ⊢
    exact mt (isPrefix_of_isPrefix_append (List.all_iff_forall_prop.mp (by decide))) this

theorem Text.inline_join (hn : ps ≠ []) (h : ∀ p ∈ ps, p.Inline)
    (hb : ∀ c ∈ sep, isBlank c = false) : Text.Inline (join (spaced sep) ps) := by
  induction ps
  case nil => contradiction
  case cons p ps hi =>
    obtain ⟨hp, hps⟩ := List.forall_mem_cons.mp h
    cases ps
    case nil => exact hp
    case cons q ps =>
      rw [join, List.append_assoc]
      exact hp.append_spaced (hi (by simp) hps) hb

theorem Text.trim_joinLines (h : ∀ p ∈ ps, p.Inline) : (joinLines ps).trim = joinLines ps := by
  suffices ps ≠ [] → (joinLines ps).trim = joinLines ps ∧ joinLines ps ≠ [] by
    cases ps
    case nil  => rfl
    case cons => exact (this nofun).left
  intro hn
  induction ps
  case nil => contradiction
  case cons p ps hi =>
    obtain ⟨hp, hps⟩ := List.forall_mem_cons.mp h
    cases ps
    case nil => exact ⟨hp.fits.left, hp.ne_nil⟩
    case cons q ps =>
      obtain ⟨ht, hm⟩ := hi hps (by simp)
      have := trim_append_append hp.fits.left hp.ne_nil ht hm ['\n']
      simp_all [joinLines, join]

-- Lines that start with no token go on with the value above them.
theorem Statement.ofLines_continues {d : Draft} {ls rest : List Text} (hd : d.delim? = none)
    (h : ∀ l ∈ ls, continues l.trim) :
    ofLines (some d) (ls ++ rest) =
      ofLines (some { d with parts := d.parts ++ ls.map trim }) rest := by
  induction ls generalizing d
  case nil => simp
  case cons l ls hi =>
    obtain ⟨hl, hls⟩ := List.forall_mem_cons.mp h
    have ha : (d.add l.trim).delim? = none := hd
    rw [List.cons_append, ofLines]
    simp only [step, hd, hl, if_true, List.nil_append]
    rw [hi ha hls]
    simp [Draft.add]

namespace Draft

variable {d : Draft} {l : Line} {s : Text}

theorem text_inline (hn : s ≠ []) (ht : s.trim = s) :
    Draft.text (.ofLine { l with opening := .inline s }) = s := by
  cases s
  case nil  => contradiction
  case cons => exact ht

theorem finish_of_segments (hm : d.line.mark = .data) (hs : d.line.sep ≠ [])
    (ht : (segments (if d.line.sep = ['|'] then ['\n'] else d.line.sep) d.text).map trim = ps)
    (h : ∀ p ∈ ps, p.Inline) : d.finish = .data d.line.key (ps.map .text) := by
  have hf : ps.filter (· ≠ []) = ps :=
    List.filter_eq_self.mpr fun p hp => by simpa using (h p hp).ne_nil
  have hv : ps.map (Value.ofText · none) = ps.map .text :=
    List.map_congr_left fun p hp => Row.ofText_of_fitsLine (h p hp).fits
  simp only [finish, hm, if_neg hs, values, ht, hf, hv]

end Draft

end Lines

-- One key with several values and the attributes that all of them have.
structure Shorthand where
  key : Text
  values : List Text
  attrs : List (Text × Text)
  isKey : Node.isKey key
  ne_nil : values ≠ []
  inline : ∀ s ∈ values, s.Inline
  attrs_inline : ∀ a ∈ attrs, Node.isKey a.1 ∧ a.2.Inline

namespace Shorthand

variable (e : Shorthand)

def attrRows : List Row :=
  e.attrs.map fun a => ⟨.attr, a.1, .text a.2⟩

-- A row for each of the values, with the attributes below every one.
def rows : List Row :=
  e.values.flatMap fun s => ⟨.data, e.key, .text s⟩ :: e.attrRows

def spread : Text :=
  joinLines (e.rows.map Row.line)

-- All values on one line, with the separator between each two.
def line (sep : Text) : Text :=
  '.' :: e.key ++ (sep ++ ' ' :: join (spaced sep) e.values)

def joined (sep : Text) : Text :=
  joinLines (e.line sep :: e.attrRows.map Row.line)

-- A line for each of the values.
def stacked : Text :=
  joinLines (('.' :: e.key ++ ['|']) :: (e.values ++ e.attrRows.map Row.line))

-- What can be put between the values.
structure Separates (sep : Text) : Prop where
  ne_nil  : sep ≠ []
  chars   : ∀ c ∈ sep, Line.isSeparator c
  head    : ∀ c ∈ sep.head?, c ≠ ':' ∧ c ≠ '-'
  not_bar : sep ≠ ['|']
  apart   : ∀ s ∈ e.values, ¬sep <:+: s

variable {e} {sep : Text}

theorem inline_attrRows : ∀ r ∈ e.attrRows, r.Inline :=
  List.forall_mem_map.mpr fun a ha =>
    have ⟨hk, hs⟩ := e.attrs_inline a ha
    ⟨hk, a.2, rfl, hs⟩

theorem inline_rows : ∀ r ∈ e.rows, r.Inline :=
  List.forall_mem_flatMap.mpr fun s hs =>
    List.forall_mem_cons.mpr ⟨⟨e.isKey, s, rfl, e.inline s hs⟩, inline_attrRows⟩

def attrStatements (e : Shorthand) : List Statement :=
  (e.attrs.map fun a => (a.1, Value.text a.2)).map fun p => .attr p.1 p.2

theorem map_statement_attrRows : e.attrRows.map Row.statement = e.attrStatements := by
  simp [attrRows, attrStatements, Row.statement]

theorem ofText_spread : Statement.ofText e.spread =
    (e.values.map Value.text).flatMap fun v => .data e.key [v] :: e.attrStatements := by
  rw [spread, Row.ofText_map_line inline_rows, rows, List.map_flatMap, List.flatMap_map]
  simp [map_statement_attrRows, Row.statement]

theorem lines_attrRows {ls : List Text} (h : ∀ l ∈ ls, l ≠ [] ∧ Unbroken l) :
    lines (joinLines (ls ++ e.attrRows.map Row.line)) = ls ++ e.attrRows.map Row.line := by
  refine lines_joinLines (List.forall_mem_append.mpr ⟨h, List.forall_mem_map.mpr fun r hr => ?_⟩)
  exact ⟨Row.line_ne_nil, (inline_attrRows r hr).line_unbroken⟩

-- The attributes end the draft of the values.
theorem ofLines_attrRows {d : Draft} (hd : d.delim? = none) :
    Statement.ofLines (some d) (e.attrRows.map Row.line) = d.finish :: e.attrStatements := by
  have hd : ∀ d' ∈ some d, d'.delim? = none := by simpa using hd
  rw [Row.ofLines_map_line hd inline_attrRows, map_statement_attrRows]
  rfl

theorem map_trim_values (e : Shorthand) : e.values.map trim = e.values :=
  (List.map_congr_left fun s hs => (e.inline s hs).fits.left).trans (List.map_id' _)

section Joined

variable (h : e.Separates sep)

include h in
theorem Separates.no_blank : ∀ c ∈ sep, isBlank c = false := by
  intro c hc
  have := h.chars c hc
  simp only [Line.isSeparator, Bool.and_eq_true, Bool.not_eq_true'] at this
  exact this.left.right

include h in
theorem Separates.inline_join : Text.Inline (join (spaced sep) e.values) :=
  Text.inline_join e.ne_nil e.inline h.no_blank

def draft (e : Shorthand) (sep : Text) : Draft :=
  .ofLine ⟨.data, e.key, sep, .inline (join (spaced sep) e.values)⟩

include h in
theorem Separates.trim_line : (e.line sep).trim = e.line sep := by
  have hi := h.inline_join
  refine Row.trim_head_append (r := ⟨.data, e.key, .bool true⟩) (by simp) ?_
  rw [List.getLast?_append_of_ne_nil _ (by simp), List.getLast?_cons_of_ne_nil hi.ne_nil]
  exact (trim_eq_self_iff.mp hi.fits.left).right

include h in
theorem Separates.line_unbroken : Unbroken (e.line sep) := by
  refine .append (Row.head_unbroken (r := ⟨.data, e.key, .bool true⟩) e.isKey) ?_
  refine (Unbroken.of_no_blank h.no_blank).append ?_
  simpa [Unbroken] using ⟨by decide, h.inline_join.fits.right⟩

include h in
theorem Separates.sep_stops {t : Text} : Stops Node.isKeyChar (sep ++ t) := by
  cases sep
  case nil => exact absurd rfl h.ne_nil
  case cons c sep =>
    have hc := h.chars c List.mem_cons_self
    have hh := h.head c rfl
    simp only [Line.isSeparator, Bool.and_eq_true, Bool.not_eq_true'] at hc
    simp [Node.isKeyChar, hc, hh]

include h in
theorem Separates.opened?_line : Statement.opened? (e.line sep) = some (e.draft sep) := by
  have hl : Line.read? (e.line sep) = some (e.draft sep).line :=
    Line.read?_eq_some_iff.mpr ⟨' ' :: join (spaced sep) e.values, rfl, e.isKey, h.sep_stops,
      h.chars, Stops.cons.mpr (by decide),
      Line.opening?_inline h.inline_join.fits h.inline_join.plain⟩
  rw [Statement.opened?, hl, Option.bind_some, if_pos (.inr rfl)]
  rfl

include h in
theorem Separates.finish_draft : (e.draft sep).finish = .data e.key (e.values.map .text) := by
  have hi := h.inline_join
  have ht : (e.draft sep).text = join (spaced sep) e.values :=
    Draft.text_inline (l := ⟨.data, e.key, sep, .inline []⟩) hi.ne_nil hi.fits.left
  refine Draft.finish_of_segments rfl h.ne_nil ?_ e.inline
  rw [ht, draft, Draft.ofLine, if_neg h.not_bar]
  exact map_trim_segments_join h.ne_nil h.no_blank e.ne_nil
    (fun s hs => ⟨(e.inline s hs).fits.left, h.apart s hs⟩) 0

include h in
theorem Separates.ofText_joined :
    Statement.ofText (e.joined sep) = .data e.key (e.values.map .text) :: e.attrStatements := by
  have hl : lines (e.joined sep) = e.line sep :: e.attrRows.map Row.line :=
    lines_attrRows (List.forall_mem_singleton.mpr ⟨by simp [line], h.line_unbroken⟩)
  rw [Statement.ofText, hl, Statement.ofLines, Statement.step, h.trim_line, h.opened?_line,
    ofLines_attrRows rfl, h.finish_draft]
  rfl

end Joined

section Stacked

-- None of the values starts with a token.
def Stackable (e : Shorthand) : Prop :=
  ∀ s ∈ e.values, Stops Statement.isToken s

instance (e : Shorthand) : Decidable e.Stackable :=
  inferInstanceAs (Decidable (∀ s ∈ e.values, Stops Statement.isToken s))

def bar (e : Shorthand) : Line :=
  ⟨.data, e.key, ['|'], .inline []⟩

theorem opened?_bar : Statement.opened? ('.' :: e.key ++ ['|']) = some (.ofLine e.bar) := by
  have hc : ∀ c ∈ ['|'], Line.isSeparator c := List.all_eq_true.mp (by decide)
  have hl : Line.read? ('.' :: e.key ++ ['|']) = some e.bar :=
    Line.read?_eq_some_iff.mpr ⟨[], by simp [bar, Mark.char], e.isKey, Stops.cons.mpr (by decide),
      hc, .nil, rfl⟩
  rw [Statement.opened?, hl, Option.bind_some, if_pos (.inr rfl)]

theorem finish_bar :
    Draft.finish { line := e.bar, parts := e.values } = .data e.key (e.values.map .text) := by
  have ht : Draft.text { line := e.bar, parts := e.values } = joinLines e.values :=
    trim_joinLines e.inline
  refine Draft.finish_of_segments rfl nofun ?_ e.inline
  have hf : ∀ s ∈ e.values, '\n' ∉ s := fun s hs => (e.inline s hs).fits.right.feed_not_mem
  rw [ht, bar, if_pos rfl, segments_joinLines e.ne_nil hf, map_trim_values]

theorem lines_stacked : lines e.stacked =
    ('.' :: e.key ++ ['|']) :: (e.values ++ e.attrRows.map Row.line) := by
  have hk : Unbroken ('.' :: e.key ++ ['|']) := by
    refine .append (Row.head_unbroken (r := ⟨.data, e.key, .bool true⟩) e.isKey) ?_
    simp [Unbroken]
    decide
  have hl : ∀ l ∈ ('.' :: e.key ++ ['|']) :: e.values, l ≠ [] ∧ Unbroken l :=
    List.forall_mem_cons.mpr
      ⟨⟨by simp, hk⟩, fun s hs => ⟨(e.inline s hs).ne_nil, (e.inline s hs).fits.right⟩⟩
  exact lines_attrRows hl

theorem ofText_stacked (h : e.Stackable) :
    Statement.ofText e.stacked = .data e.key (e.values.map .text) :: e.attrStatements := by
  have ht : trim ('.' :: e.key ++ ['|']) = '.' :: e.key ++ ['|'] :=
    Row.trim_head_append (r := ⟨.data, e.key, .bool true⟩) nofun (by simp; decide)
  have hc : ∀ s ∈ e.values, Statement.continues s.trim := by
    intro s hs
    have hn := (e.inline s hs).ne_nil
    have hs' := h s hs
    rw [(e.inline s hs).fits.left]
    cases s
    case nil => contradiction
    case cons => simpa [Statement.continues] using hs'
  rw [Statement.ofText, lines_stacked, Statement.ofLines, Statement.step, ht, opened?_bar,
    Statement.ofLines_continues rfl hc, map_trim_values]
  change Statement.ofLines (some { line := e.bar, parts := e.values }) _ = _
  rw [ofLines_attrRows rfl, finish_bar]

end Stacked

theorem fresh_joinLines {c : Char} {l : Text} {ls : List Text} (hc : Statement.isToken c) :
    Text.Fresh (joinLines ((c :: l) :: ls)) := by
  cases ls <;> exact Stops.cons.mpr (by simpa using hc)

theorem fresh_spread : Text.Fresh e.spread := by
  have ⟨v, vs, hv⟩ := List.exists_cons_of_ne_nil e.ne_nil
  rw [spread, rows, hv]
  exact fresh_joinLines rfl

theorem ofText_append_congr {s t : Text} (hs : ¬s.EndsInBlock) (hf : t.Fresh)
    (ht : Statement.ofText t = .data e.key (e.values.map .text) :: e.attrStatements) :
    Memo.ofText (s ++ '\n' :: t) = Memo.ofText (s ++ '\n' :: e.spread) := by
  refine Memo.ofText_append_congr hs hf fresh_spread ?_
  rw [ht, ofText_spread]
  exact Sheet.alike_data ..

end Shorthand

-- Below any sheet that leaves no block open, several values in one statement are read as a row for
-- each of them.
theorem Disk.readText_shorthand {s : Text} (d : Disk) (dir : Path) (hs : ¬s.EndsInBlock)
    (e : Shorthand) :
    (∀ sep, e.Separates sep →
      (d.readText dir (s ++ '\n' :: e.joined sep)).memos =
          (d.readText dir (s ++ '\n' :: e.spread)).memos ∧
        (d.readText dir (s ++ '\n' :: e.joined sep)).rejected =
          (d.readText dir (s ++ '\n' :: e.spread)).rejected) ∧
    (e.Stackable →
      (d.readText dir (s ++ '\n' :: e.stacked)).memos =
          (d.readText dir (s ++ '\n' :: e.spread)).memos ∧
        (d.readText dir (s ++ '\n' :: e.stacked)).rejected =
          (d.readText dir (s ++ '\n' :: e.spread)).rejected) := by
  constructor
  case left =>
    intro sep h
    exact Sheet.expand_congr _ <|
      Shorthand.ofText_append_congr hs (Shorthand.fresh_joinLines rfl) h.ofText_joined
  case right =>
    intro h
    exact Sheet.expand_congr _ <|
      Shorthand.ofText_append_congr hs (Shorthand.fresh_joinLines rfl) (Shorthand.ofText_stacked h)

theorem Disk.readText_shorthand_tags :
    let d : Disk := ⟨⟨['/'], []⟩, []⟩
    let joined : Text := "@h t\n.tags;- a - b ;- <\n+k 1\n+k 2".toList
    let stacked : Text := "@h t\n.tags|\na - b\n<\n+k 1\n+k 2".toList
    let node (s : String) : Node := ⟨"tags".toList, .text s.toList, [(['k'], .text ['2'])]⟩
    let ms : List Memo := [⟨⟨['h'], .text ['t'], []⟩, [node "a - b", node "<"]⟩]
    (d.readText d.workingDir joined).memos = .ok ms ∧
      (d.readText d.workingDir stacked).memos = .ok ms := by
  intro d joined stacked node ms
  let e : Shorthand :=
    ⟨"tags".toList, ["a - b".toList, ['<']], [(['k'], ['1']), (['k'], ['2'])], by decide, nofun,
      by decide +kernel, by decide +kernel⟩
  have hs : ¬Text.EndsInBlock "@h t".toList := by decide +kernel
  have hr : (d.readText d.workingDir ("@h t".toList ++ '\n' :: e.spread)).memos = .ok ms := by
    decide +kernel
  have hj : joined = "@h t".toList ++ '\n' :: e.joined [';', '-'] := by decide
  have hb : stacked = "@h t".toList ++ '\n' :: e.stacked := by decide
  have hsep : e.Separates [';', '-'] :=
    ⟨nofun, List.all_eq_true.mp (by decide), by simp, nofun, by decide⟩
  have hst : e.Stackable := by decide
  have ⟨h, h'⟩ := readText_shorthand d d.workingDir hs e
  rw [hj, hb, (h _ hsep).left, (h' hst).left]
  exact ⟨hr, hr⟩

end MemoBase
