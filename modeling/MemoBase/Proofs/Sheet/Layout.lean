import Mathlib.Logic.Relation
import MemoBase.Proofs.Sheet.Rows
import MemoBase.Proofs.Sheet.Scan
import MemoBase.Sheet.Include

namespace MemoBase

open Text

-- No block is open below the lines.
def Text.Outside (ls : List Text) : Prop :=
  ∀ d ∈ Draft.pending none ls, d.delim? = none

instance (ls : List Text) : Decidable (Outside ls) :=
  inferInstanceAs (Decidable (∀ d ∈ Draft.pending none ls, d.delim? = none))

-- One change of the layout. A line that is put in stands in front of a line that continues nothing.
inductive Text.Relaid : List Text → List Text → Prop
  | pad {ls₁ ls₂ : List Text} {l w w' : Text} :
    Outside ls₁ → (∀ c ∈ w, isBlank c) → (∀ c ∈ w', isBlank c) →
    Relaid (ls₁ ++ l :: ls₂) (ls₁ ++ (w ++ l ++ w') :: ls₂)
  | insert {ls₁ ls₂ : List Text} {l : Text} :
    Outside ls₁ → Stops (· != '#') l.trim → (∀ l' ∈ ls₂.head?, l'.trim.Fresh) →
    Relaid (ls₁ ++ ls₂) (ls₁ ++ l :: ls₂)

-- Every line feed with a carriage return in front of it.
def Text.toCrlf (s : Text) : Text :=
  s.flatMap fun c => if c = '\n' then ['\r', '\n'] else [c]

variable {s l w w' : Text} {ls ls' : List Text} {d? : Option Draft}

theorem Text.lines_toCrlf (h : '\r' ∉ s) : s.toCrlf.lines = s.lines := by
  induction s
  case nil => rfl
  case cons c s hi =>
    obtain ⟨hc, hs⟩ := not_or.mp (mt List.mem_cons.mpr h)
    have hi := hi hs
    have hf (t : Text) : leadsFeed c t = false := by simp [leadsFeed, Ne.symm hc]
    by_cases hn : c = '\n'
    case pos =>
      rw [toCrlf, List.flatMap_cons, if_pos hn, ← toCrlf]
      simp [lines, leadsFeed, hn, hi]
    case neg =>
      rw [toCrlf, List.flatMap_cons, if_neg hn, ← toCrlf, List.singleton_append, lines, lines, hf, hf,
        hi]

namespace Statement

-- Outside of blocks only the trimmed line is read.
theorem step_pad (hd : ∀ d ∈ d?, d.delim? = none) (hw : ∀ c ∈ w, isBlank c)
    (hw' : ∀ c ∈ w', isBlank c) : step d? (w ++ l ++ w') = step d? l := by
  have ht : (w ++ l ++ w').trim = l.trim := by rw [trim_append_right hw', trim_append_left hw]
  cases d?
  case none   => simp only [step, ht]
  case some d => simp only [step, hd d rfl, ht]

-- A blank line or a comment opens nothing and continues nothing.
theorem ofLines_turn_insert (hd : ∀ d ∈ d?, d.delim? = none) (hl : Stops (· != '#') l.trim) :
    ofLines d? (l :: ls) = (d?.map Draft.finish).toList ++ ofLines none ls := by
  have ⟨ho, hc⟩ : opened? l.trim = none ∧ continues l.trim = false := by
    cases ht : l.trim
    case nil      => exact ⟨rfl, rfl⟩
    case cons c t =>
      obtain rfl : c = '#' := by simpa [ht] using hl
      exact ⟨rfl, rfl⟩
  rw [ofLines_turn hd hc, ofLines, step, ho, List.nil_append]

theorem ofLines_insert (hd : ∀ d ∈ d?, d.delim? = none) (hl : Stops (· != '#') l.trim)
    (hn : ∀ l' ∈ ls.head?, l'.trim.Fresh) : ofLines d? (l :: ls) = ofLines d? ls := by
  rw [ofLines_turn_insert hd hl]
  cases ls
  case nil        => cases d? <;> rfl
  case cons l' ls => rw [ofLines_turn hd (continues_of_fresh (hn l' rfl))]

theorem ofLines_relaid (h : Relaid ls ls') : ofLines none ls' = ofLines none ls := by
  cases h
  case pad hd hw hw' => rw [ofLines_append, ofLines_append, ofLines, ofLines, step_pad hd hw hw']
  case insert hd hl hn => rw [ofLines_append, ofLines_append, ofLines_insert hd hl hn]

end Statement

-- Texts with the same lines but for their layout are read alike, whatever they hold.
theorem Disk.readText_relaid (d : Disk) (dir : Path) (s : Text) :
    (∀ t : Text, Relation.ReflTransGen Relaid s.lines t.lines →
      d.readText dir t = d.readText dir s) ∧
    ('\r' ∉ s → d.readText dir s.toCrlf = d.readText dir s) := by
  have hr {t : Text} (h : Statement.ofText t = Statement.ofText s) :
      d.readText dir t = d.readText dir s := by
    simp only [readText, Sheet.expand, Sheet.ofText, h]
  constructor
  case left =>
    intro t h
    refine hr ?_
    rw [Statement.ofText, Statement.ofText]
    generalize t.lines = ls at h
    induction h
    case refl         => rfl
    case tail _ hs hi => rw [Statement.ofLines_relaid hs, hi]
  case right =>
    intro h
    refine hr ?_
    rw [Statement.ofText, Statement.ofText, lines_toCrlf h]

-- A line that opens a node is moved in, and a comment ends a value that would end there anyway.
theorem Disk.readText_relaid_note :
    let s : Text := "@h t\n.k a\nb\n+x <<E\n y\nE".toList
    let t : Text := "@h t\n\t.k a \nb\n # c\n+x <<E\n y\nE".toList
    let d : Disk := ⟨⟨['/'], []⟩, []⟩
    let ms : List Memo :=
      [⟨⟨['h'], .text ['t'], []⟩,
        [⟨['k'], .block "a\nb".toList "EOF".toList, [(['x'], .block ['y'] ['E'])]⟩]⟩]
    (d.readText d.workingDir t).memos = .ok ms ∧
      (d.readText d.workingDir s.toCrlf).memos = .ok ms := by
  intro s t d ms
  have hr : (d.readText d.workingDir s).memos = .ok ms := by decide +kernel
  have ⟨h, hc⟩ := readText_relaid d d.workingDir s
  let above : List Text := ["@h t".toList]
  let value : List Text := [['\t'] ++ ".k a".toList ++ [' '], ['b']]
  let below : List Text := ["+x <<E".toList, " y".toList, ['E']]
  have hp : Relaid (above ++ ".k a".toList :: ['b'] :: below) (above ++ value ++ below) :=
    .pad (by decide +kernel) (List.all_eq_true.mp (by decide)) (List.all_eq_true.mp (by decide))
  have hi : Relaid (above ++ value ++ below) (above ++ value ++ " # c".toList :: below) :=
    .insert (by decide +kernel) (by decide +kernel) (by decide +kernel)
  have ht : Relation.ReflTransGen Relaid s.lines t.lines := (Relation.ReflTransGen.single hp).tail hi
  rw [h t ht, hc (by decide)]
  exact ⟨hr, hr⟩

end MemoBase
