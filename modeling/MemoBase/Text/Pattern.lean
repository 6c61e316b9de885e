import MemoBase.Text.Basic

namespace MemoBase

-- A pattern can match a beginning of a text in several ways, which are tried in a fixed order.
inductive Pattern (γ : Type)
  | skip
  | one (p : Char → Bool)
  | many (p : Char → Bool)
  | few (p : Char → Bool)
  | seq (a b : Pattern γ)
  | alt (a b : Pattern γ)
  | group (name : γ) (a : Pattern γ)

namespace Pattern

variable {γ : Type}

def oneOrMore (p : Char → Bool) : Pattern γ :=
  seq (one p) (many p)

def optional (a : Pattern γ) : Pattern γ :=
  alt a skip

structure Way (γ : Type) where
  taken : Text
  groups : List (γ × Text)
  rest : Text

def Way.append (w v : Way γ) : Way γ where
  taken := w.taken ++ v.taken
  groups := w.groups ++ v.groups
  rest := v.rest

-- The parts at the beginning of a text that have a property throughout, the longest one first, each
-- with what follows it.
def runs (p : Char → Bool) : Text → List (Text × Text)
  | []     => [([], [])]
  | c :: s =>
    if p c then (runs p s).map (fun w => (c :: w.1, w.2)) ++ [([], c :: s)] else [([], c :: s)]

-- As many characters as possible are tried first by `many`, and as few as possible by `few`.
def ways : Pattern γ → Text → List (Way γ)
  | skip,      s      => [⟨[], [], s⟩]
  | one _,     []     => []
  | one p,     c :: s => if p c then [⟨[c], [], s⟩] else []
  | many p,    s      => (runs p s).map fun w => ⟨w.1, [], w.2⟩
  | few p,     s      => (runs p s).reverse.map fun w => ⟨w.1, [], w.2⟩
  | seq a b,   s      => (a.ways s).flatMap fun w => (b.ways w.rest).map w.append
  | alt a b,   s      => a.ways s ++ b.ways s
  | group n a, s      => (a.ways s).map fun w => { w with groups := (n, w.taken) :: w.groups }

-- The groups of the match. A group that has taken no part in it is missing.
def fullMatch? (a : Pattern γ) (s : Text) : Option (List (γ × Text)) :=
  ((a.ways s).find? (·.rest = [])).map Way.groups

end Pattern
end MemoBase
