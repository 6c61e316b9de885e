import MemoBase.Proofs.Filter.Coercion
import MemoBase.Proofs.Filter.Selection
import MemoBase.Proofs.Query.Reading

namespace MemoBase

open Query

variable {f : NodeFilter} {m : Memo} {p i : Nat} {n : Node} {key s : Text} {a : Exact}
variable {value : ValueFilter} {op : Operator} {c : Comparison} {before after : Gap} {x y : Single}

section Selection

theorem MemoFilter.mem_positions_iff :
    p ∈ positions ⟨[{ key := .equals key, value := value }]⟩ m ↔
      ∃ n, m.nodes[p]? = some n ∧ n.key = key ∧ value.check n.value := by
  simp only [mem_positions_uncounted, KeyFilter.check, beq_iff_eq]

end Selection

section Numbers

theorem Text.isBare_of_writes (h : s.Writes a) : ∀ c ∈ s, isBare c := by
  refine Numeral.forall_mem_of_writes (fun c hc => ?_) (List.all_iff_forall_prop.mp (by decide)) h
  have hq : c ≠ ',' ∧ c ≠ '\x27' := by
    constructor <;> (rintro rfl; exact absurd hc (by decide))
  simp [isBare, isBlank_of_isDigit hc, hq]

theorem ValueFilter.check_compare {v : Value} {z : Double} (h : v.toSingle = .ok x) :
    (compare c z).check v = c.holds (x.convert .double) z := by
  simp [check, h]

-- Of two numbers in order neither is found on the wrong side of the other.
theorem Comparison.holds_eq_false (h : x.le y) :
    gt.holds (x.convert .double) (y.convert .double) = false ∧
      lt.holds (y.convert .double) (x.convert .double) = false :=
  have h := Binary.lt_eq_false (Binary.convert_mono (by decide) h)
  ⟨h, h⟩

end Numbers

-- A key, an operator and an operand, with gaps between them.
def Query.comparing (key : Text) (before : Gap) (op : Operator) (after : Gap) (w : Text) : Text :=
  key ++ (before.text ++ (op.text ++ (after.text ++ w)))

theorem MemoFilter.ofQuery_comparing (hk : Node.isKey key) (h : op.Denotes s value)
    (hs : s.Writes a) :
    ofQuery (comparing key before op after s) =
      .ok ⟨[{ key := .equals key, value := value }]⟩ := by
  let none : Gap := ⟨[], by simp⟩
  let operand : Operand := .bare s (Numeral.ne_nil_of_writes hs) (Text.isBare_of_writes hs)
  let c : Condition := ⟨.any, key, .none, some ⟨before, op, after, operand, value, h⟩, hk⟩
  let d : Derivation := ⟨none, c, [], none⟩
  have hd : d.IsShort := by simp [Derivation.isShort_iff, d, c, Index.IsShort]
  have ht : d.text = comparing key before op after s := by
    simp [d, c, none, operand, Derivation.text, Condition.text, Test.text, Operand.text, Scope.text,
      Index.text, comparing]
  rw [ofQuery, ← ht, read_text hd]
  rfl

-- A query with a numeral of the notation is accepted, and what it selects is read off its filter.
theorem MemoFilter.exists_mem_positions_iff (before after : Gap) (hn : m.nodes[p]? = some n)
    (hk : Node.isKey key) (hs : s.Writes a) (h : op.Denotes s value) :
    ∃ f, ofQuery (comparing key before op after s) = .ok f ∧
      (p ∈ f.positions m ↔ n.key = key ∧ value.check n.value) :=
  ⟨_, ofQuery_comparing hk h hs, by simp [mem_positions_iff, hn]⟩

theorem MemoFilter.exists_not_mem_positions (hn : m.nodes[p]? = some n) (hk : Node.isKey key)
    (hv : n.value.toSingle = .ok x) (hs : s.Writes a)
    (hr : Single.read s = .ok y) (hc : c.holds (x.convert .double) (y.convert .double) = false) :
    ∃ f, ofQuery (comparing key before (.compare c) after s) = .ok f ∧ p ∉ f.positions m := by
  have ⟨f, hf, hp⟩ := exists_mem_positions_iff before after hn hk hs (.compare (c := c) hr)
  refine ⟨f, hf, fun hm => ?_⟩
  have := (hp.mp hm).right
  rw [ValueFilter.check_compare hv, hc] at this
  contradiction

-- The value of a node is found by its own display text, as a text and as a number.
theorem MemoFilter.mem_positions_display (hn : m.nodes[p]? = some n) (hk : Node.isKey n.key)
    (hv : n.value.toSingle = .ok x) (hx : x.isNan = false) (before after : Gap) :
    (∀ op ∈ [Operator.equals, .compare .le, .compare .ge],
      ∃ f, ofQuery (comparing n.key before op after n.value.display) = .ok f ∧ p ∈ f.positions m) ∧
    ∀ op ∈ [Operator.compare .lt, .compare .gt],
      ∃ f, ofQuery (comparing n.key before op after n.value.display) = .ok f ∧
        p ∉ f.positions m := by
  have hr := Value.read_display hv
  have ⟨a, ha⟩ := Single.exists_writes hr hx
  have hle := Binary.le_refl ((Binary.isNan_convert (G := .double) x).trans hx)
  have ⟨hgt, hlt⟩ := Comparison.holds_eq_false (Binary.le_refl hx)
  have selected {op : Operator} {value : ValueFilter} (h : op.Denotes n.value.display value)
      (hc : value.check n.value) :
      ∃ f, ofQuery (comparing n.key before op after n.value.display) = .ok f ∧ p ∈ f.positions m := by
    have ⟨f, hf, hp⟩ := exists_mem_positions_iff before after hn hk ha h
    exact ⟨f, hf, hp.mpr ⟨rfl, hc⟩⟩
  constructor
  all_goals
    intro op hop
    simp only [List.mem_cons, List.not_mem_nil, or_false] at hop
  case left =>
    rcases hop with rfl | rfl | rfl
    · exact selected .equals (by simp [ValueFilter.check])
    · exact selected (.compare hr) (by rwa [ValueFilter.check_compare hv])
    · exact selected (.compare hr) (by rwa [ValueFilter.check_compare hv])
  case right =>
    rcases hop with rfl | rfl
    · exact exists_not_mem_positions hn hk hv ha hr hlt
    · exact exists_not_mem_positions hn hk hv ha hr hgt

theorem MemoFilter.mem_positions_display_zero :
    let m : Memo := ⟨⟨"book".toList, .text "t".toList, []⟩, [⟨"k".toList, .number (.zero true), []⟩]⟩
    let gap : Gap := ⟨[], by simp⟩
    (∀ op ∈ [Operator.equals, .compare .le, .compare .ge],
      ∃ f, ofQuery (comparing "k".toList gap op gap "-0".toList) = .ok f ∧ 1 ∈ f.positions m) ∧
    ∀ op ∈ [Operator.compare .lt, .compare .gt],
      ∃ f, ofQuery (comparing "k".toList gap op gap "-0".toList) = .ok f ∧ 1 ∉ f.positions m := by
  intro m gap
  have hd : (Value.number (.zero true)).display = "-0".toList := by decide +kernel
  have := mem_positions_display (m := m) (p := 1) rfl (by decide) rfl rfl gap gap
  rwa [hd] at this

-- Every value that is taken to a number denotes one exact number, and the order of these is kept.
theorem MemoFilter.denoted_order_kept {v w : Value} (hv : v.toSingle = .ok x)
    (hx : x.isNan = false) (hw : w.toSingle = .ok y) (hy : y.isNan = false) :
    ∃ a b, (∀ a', v.Denotes a' ↔ a' = a) ∧ (∀ b', w.Denotes b' ↔ b' = b) ∧
      (a = b → x.same y) ∧
      (a ≤ b → x.le y ∧
        ∀ (m : Memo) (p : Nat) (n : Node) (key s : Text) (before after : Gap),
          m.nodes[p]? = some n → Node.isKey key →
          (n.value = v → s.Writes b →
            ∃ f, ofQuery (comparing key before (.compare .gt) after s) = .ok f ∧
              p ∉ f.positions m) ∧
          (n.value = w → s.Writes a →
            ∃ f, ofQuery (comparing key before (.compare .lt) after s) = .ok f ∧
              p ∉ f.positions m)) := by
  have ⟨a, ha⟩ := Value.exists_denotes_iff.mpr ⟨x, hv, hx⟩
  have ⟨b, hb⟩ := Value.exists_denotes_iff.mpr ⟨y, hw, hy⟩
  refine ⟨a, b, fun a' => ⟨fun h => h.unique ha, fun h => h ▸ ha⟩,
    fun b' => ⟨fun h => h.unique hb, fun h => h ▸ hb⟩, fun h => ?same, fun h => ⟨?le, ?_⟩⟩
  case same => exact Binary.same_of_le (ha.le hb hv hw h.le) (hb.le ha hw hv h.ge)
  case le   => exact ha.le hb hv hw h
  intro m p n key s before after hn hk
  constructor
  case left =>
    rintro rfl hs
    have ⟨z, hz⟩ := Single.exists_read hs
    have hle := ha.le (.text hs) hv (Value.toSingle_text hz) h
    exact exists_not_mem_positions hn hk hv hs hz (Comparison.holds_eq_false hle).left
  case right =>
    rintro rfl hs
    have ⟨z, hz⟩ := Single.exists_read hs
    have hle := Value.Denotes.le (.text hs) hb (Value.toSingle_text hz) hw h
    exact exists_not_mem_positions hn hk hw hs hz (Comparison.holds_eq_false hle).right

-- Both numbers are rounded to the same single, though the text denotes the lesser one.
theorem MemoFilter.denoted_order_kept_halves :
    let m : Memo :=
      ⟨⟨"book".toList, .text "t".toList, []⟩, [⟨"k".toList, .text "16777216.5".toList, []⟩]⟩
    let gap : Gap := ⟨[], by simp⟩
    ∃ f, ofQuery (comparing "k".toList gap (.compare .gt) gap "16777217".toList) = .ok f ∧
      1 ∉ f.positions m := by
  intro m gap
  have hv : (Value.text "16777216.5".toList).toSingle = .ok (.ofInt 16777216) := by decide +kernel
  have ⟨a, b, ha, hb, _, h⟩ := denoted_order_kept (w := .integer 16777217) hv rfl rfl rfl
  have hd : Numeral.Significand ("16777216".toList ++ '.' :: ['5']) _ :=
    .point (List.all_eq_true.mp (by decide)) (List.all_eq_true.mp (by decide)) (.inl (by decide))
  have hs : Text.Writes "16777216.5".toList (.signed false ((16777216 + 5 / 10) * 10 ^ 0)) :=
    .finite (w := []) (t := []) .none hd .none
  have hs' : Text.Writes "16777217".toList (.signed false (16777217 * 10 ^ 0)) :=
    .finite (w := []) (s := "16777217".toList) (t := []) .none
      (.whole (List.all_eq_true.mp (by decide)) (by decide)) .none
  have hn : (16777217 : Int32).toInt = 16777217 := by decide
  have ha := (ha _).mp (.text hs)
  have hb := (hb _).mp (.integer _)
  rw [hn] at hb
  have hle : a ≤ b := by
    rw [← ha, ← hb, Exact.signed, Exact.finite_le_finite]
    norm_num
  have hs' : Text.Writes "16777217".toList b := by
    rw [← hb]
    simpa [Exact.signed] using hs'
  exact (h hle).right m 1 _ "k".toList _ gap gap rfl (by decide) |>.left rfl hs'

end MemoBase
