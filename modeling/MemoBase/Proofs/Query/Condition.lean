import MemoBase.Proofs.Query.Index

namespace MemoBase

open Text

variable {p : Char → Bool} {r r' s w : Text}

namespace Operator

variable {op : Operator} {f f' : ValueFilter}

theorem text_stops (op : Operator) (s : Text) (hb : ∀ c ∈ ['=', '~', '<', '>'], p c = false) :
    Stops p (op.text ++ s) := by
  cases op
  case compare c => cases c <;> simp_all [text]
  all_goals simp_all [text]

-- An equality sign behind a comparison would be taken for a part of it.
theorem read?_append (h : ∀ c, op = .compare c → Stops (· == '=') s) :
    read? (op.text ++ s) = some (op, s) := by
  cases op
  case equals | contains => rfl
  case compare c =>
    replace h := h c rfl
    cases c
    case le | ge => rfl
    case lt | gt =>
      cases s
      case nil => rfl
      case cons d s =>
        have : d ≠ '=' := by simpa using h
        simp [text, read?, this]

theorem text_append_of_read? (h : read? s = some (op, r)) : s = op.text ++ r := by
  simp only [read?] at h
  split at h <;> cases h <;> rfl

theorem denotes_iff : op.Denotes w f ↔ Query.valueFilter op w = .ok f := by
  constructor
  case mp =>
    intro h
    cases h
    case equals | contains => rfl
    case compare h => simp [Query.valueFilter, h]
  case mpr =>
    intro h
    cases op
    case equals   => cases h; exact .equals
    case contains => cases h; exact .contains
    case compare c =>
      simp only [Query.valueFilter] at h
      split at h <;> cases h
      case h_1 hx => exact .compare hx

theorem Denotes.number {c : Comparison} (h : (Operator.compare c).Denotes w f) :
    ∃ x, Single.read w = .ok x := by
  cases h
  case compare h => exact ⟨_, h⟩

theorem Denotes.unique (h : op.Denotes w f) (h' : op.Denotes w f') : f = f' := by
  rw [denotes_iff] at h h'
  exact Except.ok.inj (h.symm.trans h')

end Operator

-- No number begins with an equality sign.
theorem Single.read_equals (s : Text) : ∃ e, Single.read ('=' :: s) = .error e := by
  have hf : Numeral.foldLetter '=' = '=' := by decide
  have hd : isDigit '=' = false := by decide
  simp [Single.read, Numeral.read, Numeral.sign, Numeral.word?, Numeral.finite?, Numeral.fraction,
    cut, hf, hd, Except.map]

namespace Query

namespace Operand

variable {o o' : Operand}

theorem operand_append (hr : Stops isBare r) : operand (o.text ++ r) = .ok (o.value, r) := by
  cases o
  case quoted w hw =>
    have : (w ++ '\x27' :: r).cut (· != '\x27') = (w, '\x27' :: r) :=
      cut_append (by simpa using hw) (by simp)
    simp [text, operand, this, value]
  case bare w ne hw =>
    have hc := cut_append hw hr
    cases w
    case nil => contradiction
    case cons c w =>
      have : c ≠ '\x27' := by
        rintro rfl
        simp [isBare] at hw
      simp_all [text, operand, value]

theorem exists_of_operand (h : operand s = .ok (w, r)) :
    ∃ o : Operand, o.value = w ∧ s = o.text ++ r := by
  simp only [operand] at h
  split at h
  case h_1 t =>
    have ht := List.takeWhile_append_dropWhile (p := (· != '\x27')) (l := t)
    have hs := Stops.dropWhile (· != '\x27') t
    split at h <;> cases h
    case h_2 c hc =>
      have ⟨hw, hr⟩ := Prod.mk.inj hc
      rw [hr] at hs ht
      have hc : c = '\x27' := by simpa using hs
      rw [hw, hc] at ht
      refine ⟨quoted w ?closed, rfl, by simp [text, ← ht]⟩
      case closed =>
        intro d hd
        rw [← hw] at hd
        simpa using List.mem_takeWhile_imp hd
  case h_2 =>
    split at h <;> cases h
    case h_2 hn hc =>
      have ⟨hw, hr⟩ := Prod.mk.inj hc
      refine ⟨bare w hn ?all_bare, rfl, ?_⟩
      case all_bare => exact fun c hc => List.mem_takeWhile_imp (hw ▸ hc)
      rw [text, ← hw, ← hr, List.takeWhile_append_dropWhile]

theorem text_stops (o : Operand) (hq : p '\x27' = false) (hp : ∀ c, isBare c → p c = false) :
    Stops p (o.text ++ r) := by
  cases o
  case quoted => simpa [text]
  case bare w ne hw =>
    cases w
    case nil  => contradiction
    case cons => exact Stops.cons.mpr (hp _ (hw _ List.mem_cons_self))

theorem append_inj (h : o.text ++ r = o'.text ++ r') (hr : Stops isBare r)
    (hr' : Stops isBare r') : o = o' ∧ r = r' := by
  have ho := operand_append (o := o) hr
  rw [h, operand_append hr'] at ho
  have ⟨hv, hr⟩ := Prod.mk.inj (Except.ok.inj ho)
  subst hr
  have ht := List.append_cancel_right h
  cases o <;> cases o'
  case quoted.quoted => simp_all [value]
  case bare.bare     => simp_all [value]
  case quoted.bare | bare.quoted =>
    have := congrArg List.length ht
    simp only [value] at hv
    simp only [text, hv, List.length_append, List.length_cons] at this
    omega

end Operand

namespace Test

variable {t t' : Test}

theorem text_append :
    t.text ++ r = t.before.text ++ (t.op.text ++ (t.after.text ++ (t.operand.text ++ r))) := by
  simp [text]

theorem op_stops (t : Test) : Stops isBlank (t.op.text ++ r) :=
  t.op.text_stops _ (by simp; decide)

theorem operand_stops (t : Test) : Stops isBlank (t.operand.text ++ r) :=
  t.operand.text_stops (by decide) fun c hc => by simp_all [isBare]

theorem after_stops {c : Comparison} (h : t.op = .compare c) :
    Stops (· == '=') (t.after.text ++ (t.operand.text ++ r)) := by
  refine t.after.stops (fun c hc => beq_of_isBlank hc (by decide)) ?_
  have hd := t.denotes
  cases ho : t.operand
  case quoted => simp [Operand.text]
  case bare w ne hw =>
    cases w
    case nil => contradiction
    case cons d w =>
      rw [h, ho] at hd
      obtain ⟨x, hx⟩ := hd.number
      simp only [Operand.text, List.cons_append, Stops.cons, beq_eq_false_iff_ne]
      rintro rfl
      obtain ⟨e, he⟩ := Single.read_equals w
      simp [Operand.value, he] at hx

theorem test_append (hr : Stops isBare r) : test (t.text ++ r).trimLeft = .ok (t.filter, r) := by
  have ho := Operator.read?_append fun c => t.after_stops (r := r) (c := c)
  have hf := Operator.denotes_iff.mp t.denotes
  rw [text_append, Gap.trimLeft_append_of_stops _ t.op_stops]
  simp [test, ho, Gap.trimLeft_append_of_stops _ t.operand_stops, Operand.operand_append hr, hf]

theorem not_ends : ¬Ends (t.text ++ r) := by
  rw [text_append, Ends, Gap.trimLeft_append_of_stops _ t.op_stops]
  cases t.op
  case compare c => cases c <;> simp [Operator.text]
  all_goals simp [Operator.text]

theorem test_of_ends (hr : Ends r) : test r.trimLeft = .ok (.any, r.trimLeft) := by
  have : Operator.read? r.trimLeft = none := by
    cases h : r.trimLeft
    case nil => rfl
    case cons c s =>
      rw [Ends, h] at hr
      rw [hr c rfl]
      rfl
  simp [test, this]

theorem exists_of_test {f : ValueFilter} (h : test s.trimLeft = .ok (f, r)) :
    ∃ (o : Option Test) (g : Gap),
      o.elim .any filter = f ∧ s = o.elim [] text ++ (g.text ++ r) := by
  have ⟨before, hs⟩ := Gap.exists_trimLeft s
  simp only [test] at h
  split at h
  case h_1 =>
    cases h
    exact ⟨none, before, rfl, hs⟩
  case h_2 op u hop =>
    have ⟨after, hu⟩ := Gap.exists_trimLeft u
    split at h
    case h_1 => contradiction
    case h_2 w r' ho =>
      have ⟨operand, hw, ht⟩ := Operand.exists_of_operand ho
      split at h <;> cases h
      case h_1 hf =>
        have hf := hw ▸ Operator.denotes_iff.mpr hf
        refine ⟨some ⟨before, op, after, operand, f, hf⟩, ⟨[], nofun⟩, rfl, ?_⟩
        rw [Option.elim, List.nil_append, text_append, ← ht, ← hu,
          ← Operator.text_append_of_read? hop, ← hs]

theorem append_inj (h : t.text ++ r = t'.text ++ r') (hr : Stops isBare r)
    (hr' : Stops isBare r') : t = t' ∧ r = r' := by
  rw [text_append, text_append] at h
  have ⟨before, h⟩ := Gap.append_inj h t.op_stops t'.op_stops
  have ho := Operator.read?_append fun c => t.after_stops (r := r) (c := c)
  rw [h, Operator.read?_append fun c => t'.after_stops (r := r') (c := c)] at ho
  have ⟨op, h⟩ := Prod.mk.inj (Option.some.inj ho)
  have ⟨after, h⟩ := Gap.append_inj h.symm t.operand_stops t'.operand_stops
  have ⟨operand, h⟩ := Operand.append_inj h hr hr'
  have hf := t.denotes
  rw [← op, operand] at hf
  have filter := hf.unique t'.denotes
  cases t
  cases t'
  simp_all

end Test

namespace Condition

variable {c c' : Condition} {f : NodeFilter}

theorem scope_append {k : Text} (scope : Scope) (hk : Node.isKey k) :
    Query.scope (scope.text ++ (k ++ r)) = (scope, k ++ r) := by
  cases scope
  case header | data => rfl
  case any =>
    cases k
    case nil => contradiction
    case cons d k =>
      have hd : d ≠ '@' ∧ d ≠ '.' := by
        constructor <;> (rintro rfl; contradiction)
      simp [Scope.text, Query.scope, hd]

theorem text_append_scope (s : Text) : (Query.scope s).1.text ++ (Query.scope s).2 = s := by
  simp only [Query.scope]
  split <;> rfl

theorem text_append :
    c.text ++ r = c.scope.text ++ (c.key ++ (c.index.text ++ (c.test.elim [] Test.text ++ r))) := by
  simp [text]

-- What can stand behind the index of a condition.
theorem test_stops (c : Condition) (hr : Ends r) (hb : ∀ c, isBlank c → p c = false)
    (hp : ∀ c ∈ ['=', '~', '<', '>', ','], p c = false) :
    Stops p (c.test.elim [] Test.text ++ r) := by
  cases c.test
  case none => exact hr.stops hb (hp ',' (by simp))
  case some t =>
    have := t.op.text_stops (t.after.text ++ (t.operand.text ++ r)) fun c hc =>
      hp c (by simp at hc ⊢; tauto)
    rw [Option.elim, Test.text_append]
    exact t.before.stops hb this

theorem test_stops_bracket (c : Condition) (hr : Ends r) :
    Stops (· == '[') (c.test.elim [] Test.text ++ r) :=
  c.test_stops hr (fun _ hc => beq_of_isBlank hc (by decide)) (by simp)

theorem index_stops (c : Condition) (hr : Ends r) :
    Stops Node.isKeyChar (c.index.text ++ (c.test.elim [] Test.text ++ r)) := by
  cases c.index
  case none => exact c.test_stops hr (fun _ => Node.isKeyChar_of_isBlank) (by simp; decide)
  case single | range => simp [Index.text]; decide

theorem bare_stops (hr : Ends r) : Stops isBare r :=
  hr.stops (by simp +contextual [isBare]) (by decide)

theorem key_append (c : Condition) (hr : Ends r) :
    Query.key (c.key ++ (c.index.text ++ (c.test.elim [] Test.text ++ r))) =
      .ok (c.key, c.index.text ++ (c.test.elim [] Test.text ++ r)) := by
  simp only [Query.key, Node.readKey?_append c.isKey (c.index_stops hr)]

-- Without a test the gap behind a condition is passed over already.
theorem test_append (c : Condition) (hr : Ends r) :
    ∃ r', Query.test (trimLeft (c.test.elim [] Test.text ++ r)) =
      .ok (c.test.elim .any Test.filter, r') ∧ r'.trimLeft = r.trimLeft := by
  cases c.test
  case none   => exact ⟨_, Test.test_of_ends hr, dropWhile_eq_self (Stops.dropWhile isBlank r)⟩
  case some t => exact ⟨_, Test.test_append (bare_stops hr), rfl⟩

theorem condition_append (hi : c.index.IsShort) (hr : Ends r) :
    ∃ r', condition (c.text ++ r) = .ok (c.filter, r') ∧ r'.trimLeft = r.trimLeft := by
  have ⟨r', ht, hr'⟩ := c.test_append hr
  have hi := Index.index_append hi (c.test_stops_bracket hr)
  refine ⟨r', ?_, hr'⟩
  rw [text_append]
  simp only [condition, scope_append _ c.isKey, c.key_append hr, hi, ht, filter]

theorem exists_of_key {k : Text} (h : Query.key s = .ok (k, r)) : Node.isKey k ∧ s = k ++ r := by
  simp only [Query.key] at h
  split at h <;> cases h
  case h_1 h =>
    obtain ⟨hk, _, hs⟩ := Node.readKey?_eq_some_iff.mp h
    exact ⟨hk, hs⟩

theorem exists_of_condition (h : condition s = .ok (f, r)) :
    ∃ (c : Condition) (g : Gap), c.index.IsShort ∧ c.filter = f ∧ s = c.text ++ (g.text ++ r) := by
  have hs := text_append_scope s
  simp only [condition] at h
  split at h
  case h_1 => contradiction
  case h_2 k t hk =>
    obtain ⟨hk, ht⟩ := exists_of_key hk
    split at h
    case h_1 => contradiction
    case h_2 i u hi =>
      obtain ⟨index, short, hi, hu⟩ := Index.exists_of_index hi
      split at h <;> cases h
      case h_2 v ht' =>
        obtain ⟨test, g, hf, hr⟩ := Test.exists_of_test ht'
        refine ⟨⟨(Query.scope s).1, k, index, test, hk⟩, g, short, ?_, ?_⟩
        · simp [filter, hf, hi]
        · rw [text_append, ← hr, ← hu, ← ht, hs]

theorem test_append_inj {o o' : Option Test}
    (h : o.elim [] Test.text ++ r = o'.elim [] Test.text ++ r') (hr : Ends r) (hr' : Ends r') :
    o = o' ∧ r = r' := by
  cases o <;> cases o'
  case none.none => exact ⟨rfl, h⟩
  case some.some =>
    have ⟨ht, hr⟩ := Test.append_inj h (bare_stops hr) (bare_stops hr')
    exact ⟨ht ▸ rfl, hr⟩
  case none.some =>
    replace h : r = _ := h
    exact absurd (h ▸ hr) Test.not_ends
  case some.none =>
    replace h : _ = r' := h
    exact absurd (h ▸ hr') Test.not_ends

theorem append_inj (h : c.text ++ r = c'.text ++ r') (hr : Ends r) (hr' : Ends r') :
    c = c' ∧ r = r' := by
  rw [text_append, text_append] at h
  have hs := scope_append c.scope c.isKey (r := c.index.text ++ (c.test.elim [] Test.text ++ r))
  rw [h, scope_append c'.scope c'.isKey] at hs
  have ⟨scope, h⟩ := Prod.mk.inj hs
  have hk := c.key_append hr
  rw [← h, c'.key_append hr'] at hk
  have ⟨key, h⟩ := Prod.mk.inj (Except.ok.inj hk)
  have ⟨index, h⟩ := Index.append_inj h (c'.test_stops_bracket hr') (c.test_stops_bracket hr)
  have ⟨test, h⟩ := test_append_inj h hr' hr
  cases c
  cases c'
  simp_all

end Condition
end Query
end MemoBase
