import MemoBase.Proofs.Text.Plain
import MemoBase.Sheet.Include

namespace MemoBase

namespace Text

-- A text that a line can hold: nothing is trimmed off and nothing breaks it.
def FitsLine (s : Text) : Prop :=
  s.trim = s ∧ Unbroken s

-- A text that a block can hold, and a delimiter that can close the block but does not do so early.
structure FitsBlock (s delim : Text) : Prop where
  trimmed  : s.trim = s
  feeds    : OnlyFeeds s
  nonempty : delim ≠ []
  solid    : ∀ c ∈ delim, isBlank c = false
  unclosed : ∀ l ∈ s.lines, l.trimRight ≠ delim

instance (s : Text) : Decidable (Unbroken s) :=
  List.decidableBAll _ s

instance (s : Text) : Decidable (OnlyFeeds s) :=
  List.decidableBAll _ s

instance (s : Text) : Decidable (FitsLine s) :=
  inferInstanceAs (Decidable (_ ∧ _))

-- A delimiter is a word of its own.
def IsDelim (s : Text) : Prop :=
  s ≠ [] ∧ ∀ c ∈ s, isBlank c = false

instance (s : Text) : Decidable s.IsDelim :=
  have : Decidable (∀ c ∈ s, isBlank c = false) := List.decidableBAll _ s
  inferInstanceAs (Decidable (_ ∧ _))

theorem IsDelim.trimRight {s : Text} (h : s.IsDelim) : s.trimRight = s :=
  trimRight_eq_self_iff.mpr fun c hc => h.right c (List.mem_of_mem_getLast? hc)

theorem FitsBlock.isDelim {s delim : Text} (h : s.FitsBlock delim) : delim.IsDelim :=
  ⟨h.nonempty, h.solid⟩

theorem fitsBlock_iff {s delim : Text} :
    FitsBlock s delim ↔ s.trim = s ∧ OnlyFeeds s ∧ delim ≠ [] ∧
      (∀ c ∈ delim, isBlank c = false) ∧ ∀ l ∈ s.lines, l.trimRight ≠ delim where
  mp  := fun ⟨h₁, h₂, h₃, h₄, h₅⟩ => ⟨h₁, h₂, h₃, h₄, h₅⟩
  mpr := fun ⟨h₁, h₂, h₃, h₄, h₅⟩ => ⟨h₁, h₂, h₃, h₄, h₅⟩

instance (s delim : Text) : Decidable (FitsBlock s delim) :=
  have : Decidable (∀ c ∈ delim, isBlank c = false) := List.decidableBAll _ delim
  decidable_of_iff' _ fitsBlock_iff

theorem IsPlain.fitsLine {s : Text} (h : IsPlain s) : s.FitsLine :=
  ⟨trim_of_no_blank h.no_blank, .of_no_blank h.no_blank⟩

end Text

namespace Value

def Representable : Value → Prop
  | text s        => s.FitsLine
  | block s delim => s.FitsBlock delim
  | _             => True

instance : (v : Value) → Decidable v.Representable
  | text s        => inferInstanceAs (Decidable s.FitsLine)
  | block s delim => inferInstanceAs (Decidable (s.FitsBlock delim))
  | integer _     => inferInstanceAs (Decidable True)
  | number _      => inferInstanceAs (Decidable True)
  | bool _        => inferInstanceAs (Decidable True)

def IsText : Value → Prop
  | text _ | block .. => True
  | _                 => False

instance : (v : Value) → Decidable v.IsText
  | text _ | block ..                => inferInstanceAs (Decidable True)
  | integer _ | number _ | bool _    => inferInstanceAs (Decidable False)

def reloaded : Value → Value
  | text s        => text s
  | block s delim => block s delim
  | v             => text v.display

theorem display_isPlain {v : Value} (h : ¬v.IsText) : v.display.IsPlain := by
  cases v
  case text | block => simp [IsText] at h
  case integer      => exact .ofInt _
  case number x     => exact .binary x
  case bool b       => cases b <;> (simp [display, Text.IsPlain]; decide)

theorem reloaded_eq_text {v : Value} (h : ¬v.IsText) : v.reloaded = text v.display := by
  cases v
  case text | block => simp [IsText] at h
  all_goals rfl

theorem reloaded_eq_self {v : Value} (h : v.IsText) : v.reloaded = v := by
  cases v
  case text | block => rfl
  all_goals simp [IsText] at h

@[simp]
theorem display_reloaded (v : Value) : v.reloaded.display = v.display := by
  cases v <;> rfl

@[simp]
theorem plain_reloaded (v : Value) : v.reloaded.plain = v.plain := by
  cases v <;> rfl

theorem isText_reloaded (v : Value) : v.reloaded.IsText := by
  cases v <;> simp [reloaded, IsText]

theorem Representable.reloaded {v : Value} (h : v.Representable) : v.reloaded.Representable := by
  by_cases ht : v.IsText
  case pos => rwa [reloaded_eq_self ht]
  case neg =>
    rw [reloaded_eq_text ht]
    exact (display_isPlain ht).fitsLine

end Value

def Attrs.Representable (as : Attrs) : Prop :=
  (as.map (·.1)).Nodup ∧ ∀ a ∈ as, Node.isKey a.1 ∧ a.2.Representable

instance (as : Attrs) : Decidable as.Representable :=
  inferInstanceAs (Decidable (_ ∧ _))

namespace Node

structure Representable (n : Node) : Prop where
  key   : isKey n.key
  value : n.value.Representable
  attrs : n.attrs.Representable

instance (n : Node) : Decidable n.Representable :=
  decidable_of_iff (isKey n.key ∧ n.value.Representable ∧ n.attrs.Representable)
    ⟨fun ⟨h₁, h₂, h₃⟩ => ⟨h₁, h₂, h₃⟩, fun ⟨h₁, h₂, h₃⟩ => ⟨h₁, h₂, h₃⟩⟩

def IsText (n : Node) : Prop :=
  n.value.IsText ∧ ∀ a ∈ n.attrs, a.2.IsText

def reloaded (n : Node) : Node where
  key := n.key
  value := n.value.reloaded
  attrs := n.attrs.map fun a => (a.1, a.2.reloaded)

@[simp]
theorem key_reloaded (n : Node) : n.reloaded.key = n.key :=
  rfl

@[simp]
theorem value_reloaded (n : Node) : n.reloaded.value = n.value.reloaded :=
  rfl

theorem isText_reloaded (n : Node) : n.reloaded.IsText :=
  ⟨n.value.isText_reloaded, List.forall_mem_map.mpr fun a _ => a.2.isText_reloaded⟩

theorem reloaded_eq_self {n : Node} (h : n.IsText) : n.reloaded = n := by
  have ha : n.attrs.map (fun a => (a.1, a.2.reloaded)) = n.attrs.map id :=
    List.map_congr_left fun a hm => by simp [Value.reloaded_eq_self (h.right a hm)]
  simp [reloaded, ha, Value.reloaded_eq_self h.left]

theorem Representable.reloaded {n : Node} (h : n.Representable) : n.reloaded.Representable where
  key   := h.key
  value := h.value.reloaded
  attrs := by
    have ⟨hd, ha⟩ := h.attrs
    constructor
    case left  => simpa [Node.reloaded, Function.comp_def] using hd
    case right =>
      exact List.forall_mem_map.mpr fun a hm => ⟨(ha a hm).left, (ha a hm).right.reloaded⟩

end Node

namespace Memo

structure Representable (m : Memo) : Prop where
  nodes      : ∀ n ∈ m.nodes, n.Representable
  collection : m.collection ≠ Sheet.includeCollection

instance (m : Memo) : Decidable m.Representable :=
  decidable_of_iff ((∀ n ∈ m.nodes, n.Representable) ∧ m.collection ≠ Sheet.includeCollection)
    ⟨fun ⟨h₁, h₂⟩ => ⟨h₁, h₂⟩, fun ⟨h₁, h₂⟩ => ⟨h₁, h₂⟩⟩

def IsText (m : Memo) : Prop :=
  ∀ n ∈ m.nodes, n.IsText

def reloaded (m : Memo) : Memo where
  header := m.header.reloaded
  data := m.data.map Node.reloaded

@[simp]
theorem collection_reloaded (m : Memo) : m.reloaded.collection = m.collection :=
  rfl

@[simp]
theorem title_reloaded (m : Memo) : m.reloaded.title = m.title :=
  m.header.value.display_reloaded

@[simp]
theorem nodes_reloaded (m : Memo) : m.reloaded.nodes = m.nodes.map Node.reloaded :=
  rfl

theorem isText_reloaded (m : Memo) : m.reloaded.IsText := by
  simp [IsText, Node.isText_reloaded]

theorem reloaded_eq_self {m : Memo} (h : m.IsText) : m.reloaded = m := by
  have hd : m.data.map Node.reloaded = m.data.map id :=
    List.map_congr_left fun n hn => Node.reloaded_eq_self (h n (List.mem_cons_of_mem _ hn))
  simp [reloaded, hd, Node.reloaded_eq_self (h m.header List.mem_cons_self)]

theorem Representable.reloaded {m : Memo} (h : m.Representable) : m.reloaded.Representable where
  nodes := by
    rw [nodes_reloaded]
    exact List.forall_mem_map.mpr fun n hn => (h.nodes n hn).reloaded
  collection := h.collection

end Memo
end MemoBase
