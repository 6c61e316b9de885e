import MemoBase.Proofs.Memo.Key
import MemoBase.Proofs.Memo.Representable

namespace MemoBase

open Text

def Mark.char : Mark → Char
  | header => '@'
  | data   => '.'
  | attr   => '+'

structure Row where
  mark : Mark
  key : Text
  value : Value
  deriving DecidableEq

namespace Row

def head (r : Row) : Text :=
  r.mark.char :: r.key

def text (r : Row) : Text :=
  Node.line r.head r.value ++ ['\n']

def statement (r : Row) : Statement :=
  match r.mark with
  | .header => .header r.key r.value
  | .data   => .data r.key [r.value]
  | .attr   => .attr r.key r.value

structure Readable (r : Row) : Prop where
  key   : Node.isKey r.key
  value : r.value.Representable
  kind  : r.value.IsText

end Row

-- The text does not go on with a value that the text before it has begun.
def Text.Fresh : Text → Prop :=
  Stops (!Statement.isToken ·)

instance (s : Text) : Decidable s.Fresh :=
  inferInstanceAs (Decidable (Stops _ s))

namespace Mark

theorem ofChar?_char (m : Mark) : ofChar? m.char = some m := by
  cases m <;> rfl

theorem isBlank_char (m : Mark) : isBlank m.char = false := by
  cases m <;> decide

theorem isBreak_char (m : Mark) : isBreak m.char = false := by
  cases m <;> decide

theorem isToken_char (m : Mark) : Statement.isToken m.char := by
  cases m <;> rfl

end Mark

theorem isBlank_of_isToken {c : Char} (h : Statement.isToken c) : isBlank c = false := by
  simp only [Statement.isToken, Bool.or_eq_true, beq_iff_eq] at h
  rcases h with ((rfl | rfl) | rfl) | rfl <;> decide

namespace Row

variable {r : Row} {t rest : Text}

theorem head_unbroken (h : Node.isKey r.key) : Unbroken r.head := by
  intro c hc
  cases hc
  case head    => exact r.mark.isBreak_char
  case tail h' => exact Node.isKey_unbroken h c h'

theorem getLast?_head (h : Node.isKey r.key) : ∀ c ∈ r.head.getLast?, isBlank c = false := by
  have hk := Node.isKey_ne_nil h
  intro c hc
  rw [head, List.getLast?_cons_of_ne_nil hk] at hc
  exact Node.isBlank_of_isKeyChar (Node.isKeyChar_of_isKey h c (List.mem_of_mem_getLast? hc))

theorem trim_head (h : Node.isKey r.key) : r.head.trim = r.head :=
  trim_eq_self_iff.mpr ⟨Stops.cons.mpr r.mark.isBlank_char, getLast?_head h⟩

theorem trim_head_append (h : rest ≠ []) (hl : ∀ c ∈ rest.getLast?, isBlank c = false) :
    (r.head ++ rest).trim = r.head ++ rest := by
  refine trim_eq_self_iff.mpr ⟨Stops.cons.mpr r.mark.isBlank_char, ?_⟩
  rwa [List.getLast?_append_of_ne_nil _ h]

def draft (r : Row) (o : Opening) : Draft :=
  .ofLine ⟨r.mark, r.key, [], o⟩

theorem opened?_head {o : Opening} (h : Node.isKey r.key) (hk : Stops Node.isKeyChar rest)
    (hs : Stops Line.isSeparator rest) (ho : Line.opening? rest = some o) :
    Statement.opened? (r.head ++ rest) = some (r.draft o) := by
  have : rest.takeWhile Line.isSeparator = [] := takeWhile_append (w := []) nofun hs
  simp [Statement.opened?, head, Line.read?, Mark.ofChar?_char, Node.readKey?_append h hk,
    dropWhile_eq_self hs, ho, this, Line.WellFormed, draft]

theorem finish_draft {d : Draft} {k : Text} {m : Mark} {o : Opening} (h : d.line = ⟨m, k, [], o⟩) :
    d.finish = statement ⟨m, k, d.value⟩ := by
  cases m <;> simp [Draft.finish, statement, h]

end Row

namespace Statement

variable {d : Draft} {d? : Option Draft} {t raw delim : Text} {ls rest : List Text}

-- A line that continues nothing ends what is open, unless that is a block.
theorem ofLines_turn (hd : ∀ d ∈ d?, d.delim? = none) (hr : continues raw.trim = false) :
    ofLines d? (raw :: ls) = (d?.map Draft.finish).toList ++ ofLines none (raw :: ls) := by
  cases d?
  case none   => rfl
  case some d => simp [ofLines, step, hd d rfl, hr]

theorem lines_fresh (h : t.Fresh) :
    t.lines = [] ∨ ∃ c l ls, t.lines = (c :: l) :: ls ∧ isToken c := by
  cases t
  case nil => simp [lines]
  case cons c t =>
    have hc : isToken c := by simpa using Stops.cons.mp h
    have hb : isBreak c = false := by
      cases hb : isBreak c
      case false => rfl
      case true  => exact (isBlank_of_isBreak hb).symm.trans (isBlank_of_isToken hc)
    rw [lines_cons_of_not_break hb]
    cases hl : lines t
    case nil  => exact .inr ⟨c, [], [], rfl, hc⟩
    case cons => exact .inr ⟨c, _, _, rfl, hc⟩

theorem continues_of_fresh (h : t.Fresh) : continues t = false := by
  cases t
  case nil  => rfl
  case cons => simpa [continues] using Stops.cons.mp h

theorem continues_of_mem_head_lines (h : t.Fresh) :
    ∀ raw ∈ t.lines.head?, continues raw.trim = false := by
  intro raw hr
  rcases lines_fresh h with he | ⟨c, l, ls, he, hc⟩ <;> rw [he] at hr <;> cases hr
  rw [trim_cons (isBlank_of_isToken hc)]
  exact continues_of_fresh (Stops.cons.mpr (by simp [hc]))

-- A value that is no block ends where a fresh text begins.
theorem ofLines_fresh (hd : d.delim? = none) (h : t.Fresh) :
    ofLines (some d) t.lines = d.finish :: ofLines none t.lines := by
  have hc := continues_of_mem_head_lines h
  have hd : ∀ d' ∈ some d, d'.delim? = none := by simpa using hd
  cases hl : t.lines
  case nil         => rfl
  case cons raw ls =>
    rw [ofLines_turn hd (hc raw (by rw [hl]; rfl))]
    rfl

theorem ofLines_block (hd : d.delim? = some delim) (hl : ∀ l ∈ ls, l.trimRight ≠ delim)
    (hr : raw.trimRight = delim) :
    ofLines (some d) (ls ++ raw :: rest) =
      Draft.finish { d with parts := d.parts ++ ls } :: ofLines none rest := by
  induction ls generalizing d
  case nil => simp [ofLines, step, hd, hr]
  case cons l ls hi =>
    have hl' := fun l' hm => hl l' (List.mem_cons_of_mem l hm)
    have ha : (d.add l).delim? = some delim := hd
    have := hi ha hl'
    simp only [Draft.add, List.append_assoc, List.singleton_append] at this
    simp [ofLines, step, hd, hl l List.mem_cons_self, this, Draft.add]

end Statement

namespace Line

variable {s delim : Text}

theorem delim?_eq_none (h : "<<".toList.isPrefixOf s = false) : delim? s = none := by
  unfold delim?
  split
  case h_1 => simp at h
  case h_2 => rfl

theorem opening?_inline (h : s.FitsLine) (hp : "<<".toList.isPrefixOf s = false) :
    opening? (' ' :: s) = some (.inline s) := by
  have ⟨hl, _⟩ := trim_eq_self_iff.mp h.left
  have ht : trimLeft (' ' :: s) = s := dropWhile_append (w := [' ']) (by simp; decide) hl
  have hr : trimRight s = s := by simpa [trim, trimLeft_eq_self_iff.mpr hl] using h.left
  have hb : isBlank ' ' := by decide
  simp [opening?, trim, ht, hr, delim?_eq_none hp, hb]

theorem opening?_block (hd : delim ≠ []) (hb : ∀ c ∈ delim, isBlank c = false) :
    opening? (' ' :: '<' :: '<' :: delim) = some (.block delim) := by
  have ht : trimLeft (' ' :: '<' :: '<' :: delim) = '<' :: '<' :: delim :=
    dropWhile_append (w := [' ']) (by simp; decide) (Stops.cons.mpr (by decide))
  have : delim? ('<' :: '<' :: delim) = some delim := by
    simpa [delim?, trim_of_no_blank hb, hd] using hb
  simp [opening?, ht, this]

end Line

namespace Row

variable {r : Row} {t s delim : Text}

theorem text_fresh : (r.text ++ t).Fresh := by
  have hc : (r.mark.char == ' ') = false := by cases r.mark <;> rfl
  have : ∃ s, Node.line r.head r.value = r.mark.char :: s := by
    have hd (s : Text) := dropTrailing_cons (p := (· == ' ')) (s := s) hc
    cases r.value <;> simp only [Node.line, head, List.cons_append, hd]
    case text => split <;> exact ⟨_, rfl⟩
    all_goals exact ⟨_, rfl⟩
  have ⟨s, hs⟩ := this
  simp [text, hs, Text.Fresh, r.mark.isToken_char]

theorem dropTrailing_head (h : Node.isKey r.key) : dropTrailing (· == ' ') r.head = r.head := by
  rw [dropTrailing_eq_self_iff]
  intro c hc
  have hb := getLast?_head h c hc
  rw [beq_eq_false_iff_ne]
  rintro rfl
  contradiction

theorem dropTrailing_head_append {rest : Text} (h : rest ≠ [])
    (hl : ∀ c ∈ rest.getLast?, isBlank c = false) :
    dropTrailing (· == ' ') (r.head ++ rest) = r.head ++ rest := by
  refine dropTrailing_append_of_getLast? (fun c hc => ?_) h
  have hb := hl c hc
  rw [beq_eq_false_iff_ne]
  rintro rfl
  contradiction

theorem text_of_empty (h : Node.isKey r.key) (hv : r.value = .text []) :
    r.text = r.head ++ ['\n'] := by
  have : dropTrailing (· == ' ') (r.head ++ [' ']) = r.head := by
    rw [dropTrailing_eq_rdropWhile, List.rdropWhile_concat_pos _ _ _ (by simp),
      ← dropTrailing_eq_rdropWhile, dropTrailing_head h]
  rw [text, hv, Node.line, if_neg (by decide), this]

theorem text_of_inline (hv : r.value = .text s) (hs : s.FitsLine) (hn : s ≠ [])
    (hp : "<<".toList.isPrefixOf s = false) : r.text = r.head ++ ' ' :: s ++ ['\n'] := by
  have ⟨hl, hr⟩ := trim_eq_self_iff.mp hs.left
  have : dropTrailing (· == ' ') (r.head ++ ' ' :: s) = r.head ++ ' ' :: s :=
    dropTrailing_head_append (by simp) (by rwa [List.getLast?_cons_of_ne_nil hn])
  rw [text, hv, Node.line, trimLeft_eq_self_iff.mpr hl, if_neg (by rw [hp]; decide), this]

theorem text_of_below (hv : r.value = .text s) (hs : s.FitsLine)
    (hp : "<<".toList.isPrefixOf s) : r.text = r.head ++ '\n' :: s ++ ['\n'] := by
  have ⟨hl, _⟩ := trim_eq_self_iff.mp hs.left
  rw [text, hv, Node.line, trimLeft_eq_self_iff.mpr hl, if_pos hp]

theorem text_of_block (hv : r.value = .block s delim) (hd : delim.IsDelim) :
    r.text = r.head ++ ' ' :: '<' :: '<' :: delim ++ '\n' :: (s ++ '\n' :: (delim ++ ['\n'])) := by
  have : dropTrailing (· == ' ') (r.head ++ ' ' :: Value.display (.block s delim)) =
      r.head ++ ' ' :: Value.display (.block s delim) := by
    refine dropTrailing_head_append (by simp) ?_
    have he : Value.display (.block s delim) =
        ("<<".toList ++ delim ++ '\n' :: s ++ ['\n']) ++ delim := by
      simp [Value.display]
    rw [he, ← List.cons_append, List.getLast?_append_of_ne_nil _ hd.left]
    exact fun c hc => hd.right c (List.mem_of_mem_getLast? hc)
  rw [text, hv, Node.line, this]
  all_goals simp [Value.display]

section Drafts

variable {o : Opening}

theorem ofText_of_fitsLine (hs : s.FitsLine) : Value.ofText s none = .text s := by
  simp [Value.ofText, hs.right.feed_not_mem]

theorem value_draft_inline (hs : s.FitsLine) : (r.draft (.inline s)).value = .text s := by
  have : (r.draft (.inline s)).text = s := by
    cases s
    case nil  => rfl
    case cons => exact hs.left
  have hd : (r.draft (.inline s)).delim? = none := rfl
  simp [Draft.value, hd, this, ofText_of_fitsLine hs]

theorem value_draft_add (hs : s.FitsLine) : ((r.draft (.inline [])).add s).value = .text s := by
  have : ((r.draft (.inline [])).add s).text = s := hs.left
  have hd : ((r.draft (.inline [])).add s).delim? = none := rfl
  simp [Draft.value, hd, this, ofText_of_fitsLine hs]

theorem value_draft_block (hs : s.FitsBlock delim) :
    Draft.value { r.draft (.block delim) with
      parts := (r.draft (.block delim)).parts ++ s.splitOn '\n' } = .block s delim := by
  change Value.block (joinLines (s.splitOn '\n')).trim delim = _
  rw [joinLines_splitOn, hs.trimmed]

end Drafts

section Statements

variable (h : Node.isKey r.key) (ht : t.Fresh)

include h in
-- The line of the head opens a draft.
theorem ofLines_head {o : Opening} {rest : Text} {ls : List Text}
    (hr : (r.head ++ rest).trim = r.head ++ rest) (hk : Stops Node.isKeyChar rest)
    (hs : Stops Line.isSeparator rest) (ho : Line.opening? rest = some o) :
    Statement.ofLines none ((r.head ++ rest) :: ls) = Statement.ofLines (some (r.draft o)) ls := by
  simp [Statement.ofLines, Statement.step, hr, opened?_head h hk hs ho]

include h ht in
-- A value that is written in full on the line of the head.
theorem ofLines_inline {rest : Text} (hv : r.value = .text s) (hs : s.FitsLine)
    (hb : Unbroken rest) (hr : (r.head ++ rest).trim = r.head ++ rest)
    (hk : Stops Node.isKeyChar rest) (hp : Stops Line.isSeparator rest)
    (ho : Line.opening? rest = some (.inline s)) :
    Statement.ofLines none (lines (r.head ++ rest ++ '\n' :: t)) =
      r.statement :: Statement.ofLines none t.lines := by
  rw [lines_append_feed_of_unbroken ((head_unbroken h).append hb), ofLines_head h hr hk hp ho,
    Statement.ofLines_fresh rfl ht, finish_draft rfl, value_draft_inline hs, ← hv]

include h ht in
-- A value that looks like the opening of a block and is written below the head.
theorem ofLines_below (hv : r.value = .text s) (hs : s.FitsLine) (hp : "<<".toList.isPrefixOf s) :
    Statement.ofLines none (lines (r.head ++ '\n' :: (s ++ '\n' :: t))) =
      r.statement :: Statement.ofLines none t.lines := by
  have hc : Statement.continues s := by
    have ⟨u, hu⟩ := List.isPrefixOf_iff_prefix.mp hp
    subst hu
    rfl
  have hd : (r.draft (.inline [])).delim? = none := rfl
  have hl := lines_append_feed_of_unbroken (t := s ++ '\n' :: t) (head_unbroken h)
  rw [lines_append_feed_of_unbroken hs.right] at hl
  rw [hl, ← List.append_nil r.head, ofLines_head h (by simpa using trim_head h) .nil .nil rfl,
    Statement.ofLines]
  simp only [Statement.step, hd, hs.left, hc, if_true, List.nil_append]
  rw [Statement.ofLines_fresh rfl ht, finish_draft rfl, value_draft_add hs, ← hv]

include h ht in
theorem ofLines_text (hv : r.value = .text s) (hs : s.FitsLine) :
    Statement.ofLines none (lines (r.text ++ t)) = r.statement :: Statement.ofLines none t.lines := by
  cases hp : "<<".toList.isPrefixOf s
  case true =>
    have := ofLines_below h ht hv hs hp
    simpa [text_of_below hv hs hp] using this
  case false =>
    by_cases hn : s = []
    case pos =>
      subst hn
      rw [text_of_empty h hv, ← List.append_nil r.head, List.append_assoc, List.singleton_append]
      exact ofLines_inline h ht hv hs nofun (by simpa using trim_head h) .nil .nil rfl
    case neg =>
      have ⟨_, hl⟩ := trim_eq_self_iff.mp hs.left
      have hl : ∀ c ∈ (' ' :: s).getLast?, isBlank c = false := by
        rwa [List.getLast?_cons_of_ne_nil hn]
      have hb : Unbroken (' ' :: s) := by
        simpa [Unbroken] using ⟨by decide, hs.right⟩
      rw [text_of_inline hv hs hn hp, List.append_assoc, List.singleton_append]
      exact ofLines_inline h ht hv hs hb (trim_head_append (by simp) hl)
        (Stops.cons.mpr (by decide)) (Stops.cons.mpr (by decide)) (Line.opening?_inline hs hp)

include h in
-- What is written of a block is a draft that takes the lines of the block one by one.
theorem ofLines_open (hv : r.value = .block s delim) (hs : OnlyFeeds s) (hd : delim.IsDelim) :
    Statement.ofLines none (lines (r.text ++ t)) =
      Statement.ofLines (some (r.draft (.block delim))) (s.splitOn '\n' ++ delim :: t.lines) := by
  let rest := ' ' :: '<' :: '<' :: delim
  have hl : ∀ c ∈ rest.getLast?, isBlank c = false := by
    have : rest = [' ', '<', '<'] ++ delim := rfl
    rw [this, List.getLast?_append_of_ne_nil _ hd.left]
    exact fun c hc => hd.right c (List.mem_of_mem_getLast? hc)
  have hb : Unbroken rest := by
    simpa [rest, Unbroken] using ⟨by decide, by decide, Unbroken.of_no_blank hd.right⟩
  have hh := lines_append_feed_of_unbroken (t := s ++ '\n' :: (delim ++ '\n' :: t))
    ((head_unbroken h).append hb)
  rw [lines_append_feed hs, lines_append_feed_of_unbroken (.of_no_blank hd.right)] at hh
  have : r.text ++ t = r.head ++ rest ++ '\n' :: (s ++ '\n' :: (delim ++ '\n' :: t)) := by
    simp [text_of_block hv hd, rest]
  rw [this, hh, ofLines_head h (trim_head_append (by simp [rest]) hl) (Stops.cons.mpr (by decide))
    (Stops.cons.mpr (by decide)) (Line.opening?_block hd.left hd.right)]

include h in
theorem ofLines_block (hv : r.value = .block s delim) (hs : s.FitsBlock delim) :
    Statement.ofLines none (lines (r.text ++ t)) = r.statement :: Statement.ofLines none t.lines := by
  have hu : ∀ l ∈ s.splitOn '\n', trimRight l ≠ delim := by
    intro l hl
    by_cases hn : l = []
    case pos => subst hn; exact hs.nonempty.symm
    case neg => exact hs.unclosed l (mem_lines_of_mem_splitOn hs.feeds hl hn)
  rw [ofLines_open h hv hs.feeds hs.isDelim, Statement.ofLines_block rfl hu hs.isDelim.trimRight,
    finish_draft rfl, value_draft_block hs, ← hv]

-- A row is read as one statement, whatever comes below it.
theorem ofLines_row (hr : r.Readable) (ht : t.Fresh) :
    Statement.ofLines none (lines (r.text ++ t)) = r.statement :: Statement.ofLines none t.lines := by
  have hv := hr.value
  have hi := hr.kind
  cases h : r.value <;> simp only [h, Value.Representable, Value.IsText] at hv hi
  case text  => exact ofLines_text hr.key ht h hv
  case block => exact ofLines_block hr.key h hv

include ht in
theorem ofLines_flatMap_text {rs : List Row} (h : ∀ r ∈ rs, r.Readable) :
    Statement.ofLines none (lines (rs.flatMap text ++ t)) =
      rs.map statement ++ Statement.ofLines none t.lines := by
  suffices Statement.ofLines none (lines (rs.flatMap text ++ t)) =
      rs.map statement ++ Statement.ofLines none t.lines ∧ Text.Fresh (rs.flatMap text ++ t) from
    this.left
  induction rs
  case nil => exact ⟨rfl, ht⟩
  case cons r rs hi =>
    have ⟨hs, hf⟩ := hi fun r' hr' => h r' (List.mem_cons_of_mem r hr')
    rw [List.flatMap_cons, List.append_assoc]
    constructor
    case left =>
      rw [ofLines_row (h r List.mem_cons_self) hf, hs]
      rfl
    case right => exact text_fresh

theorem ofText_flatMap_text {rs : List Row} (h : ∀ r ∈ rs, r.Readable) :
    Statement.ofText (rs.flatMap text) = rs.map statement := by
  have := ofLines_flatMap_text .nil h
  rwa [List.append_nil, lines, Statement.ofLines, Option.map_none, Option.toList_none,
    List.append_nil] at this

end Statements

end Row
end MemoBase
