import MemoBase.Query.Basic

namespace MemoBase

def Scope.text : Scope → Text
  | header => ['@']
  | data   => ['.']
  | any    => []

-- The filters that an operator can form with an operand. Only numbers can be compared.
inductive Operator.Denotes (w : Text) : Operator → ValueFilter → Prop
  | equals : Denotes w equals (.equals w)
  | contains : Denotes w contains (.contains w)
  | compare {c : Comparison} {x : Single} :
    Single.read w = .ok x → Denotes w (compare c) (.compare c (x.convert .double))

namespace Query

structure Gap where
  text : Text
  blank : ∀ c ∈ text, Text.isBlank c

structure Bound where
  before : Gap
  digits : Text
  after : Gap
  ne_nil : digits ≠ []
  all_digits : ∀ c ∈ digits, Text.isDigit c

namespace Bound

variable (b : Bound)

def text : Text :=
  b.before.text ++ b.digits ++ b.after.text

def value : Nat :=
  Text.natOfDigits b.digits

def IsShort : Prop :=
  b.digits.length ≤ Integer.maxDigits

end Bound

inductive Index
  | none
  | single (b : Bound)
  | range (first last : Bound) (le : first.value ≤ last.value)

namespace Index

def text : Index → Text
  | none             => []
  | single b         => '[' :: b.text ++ [']']
  | range first last _ => '[' :: first.text ++ ':' :: last.text ++ [']']

def filter : Index → IndexFilter
  | none             => .any
  | single b         => .single b.value
  | range first last _ => .range first.value last.value

def IsShort : Index → Prop
  | none             => True
  | single b         => b.IsShort
  | range first last _ => first.IsShort ∧ last.IsShort

end Index

inductive Operand
  | quoted (w : Text) (closed : ∀ c ∈ w, c ≠ '\x27')
  | bare (w : Text) (ne_nil : w ≠ []) (all_bare : ∀ c ∈ w, isBare c)

namespace Operand

def value : Operand → Text
  | quoted w _ | bare w _ _ => w

def text : Operand → Text
  | quoted w _ => '\x27' :: w ++ ['\x27']
  | bare w _ _ => w

end Operand

structure Test where
  before : Gap
  op : Operator
  after : Gap
  operand : Operand
  filter : ValueFilter
  denotes : op.Denotes operand.value filter

def Test.text (t : Test) : Text :=
  t.before.text ++ (t.op.text ++ (t.after.text ++ t.operand.text))

structure Condition where
  scope : Scope
  key : Text
  index : Index
  test : Option Test
  isKey : Node.isKey key

namespace Condition

variable (c : Condition)

def text : Text :=
  c.scope.text ++ (c.key ++ (c.index.text ++ c.test.elim [] Test.text))

def filter : NodeFilter where
  scope := c.scope
  key := .equals c.key
  index := c.index.filter
  value := c.test.elim .any Test.filter

end Condition

-- A comma between two gaps, and the condition behind it.
structure Link where
  before : Gap
  after : Gap
  condition : Condition

def Link.text (l : Link) : Text :=
  l.before.text ++ ',' :: (l.after.text ++ l.condition.text)

structure Derivation where
  before : Gap
  first : Condition
  more : List Link
  after : Gap

namespace Derivation

variable (d : Derivation)

def conditions : List Condition :=
  d.first :: d.more.map Link.condition

def text : Text :=
  d.before.text ++ (d.first.text ++ (d.more.flatMap Link.text ++ d.after.text))

def filter : MemoFilter :=
  ⟨d.conditions.map Condition.filter⟩

-- The numbers of all indices have few enough digits to be worked out.
def IsShort : Prop :=
  ∀ c ∈ d.conditions, c.index.IsShort

end Derivation
end Query
end MemoBase
