import MemoBase.Value

namespace MemoBase

inductive Comparison
  | lt
  | le
  | gt
  | ge
  deriving DecidableEq

def Comparison.holds : Comparison → Double → Double → Bool
  | lt, x, y => x.lt y
  | le, x, y => x.le y
  | gt, x, y => y.lt x
  | ge, x, y => y.le x

-- Texts are compared with the display text, and searched for in text values only. Numbers are compared
-- with values that have a numerical meaning.
inductive ValueFilter
  | any
  | equals (s : Text)
  | contains (s : Text)
  | compare (op : Comparison) (x : Double)
  deriving DecidableEq

namespace ValueFilter

def check : ValueFilter → Value → Bool
  | any,          _ => true
  | equals s,     v => v.display == s
  | contains s,   v =>
    match v with
    | .text t    => Text.holds s t
    | .block t _ => Text.holds s t
    | _          => false
  | compare op x, v =>
    match v.toSingle with
    | .ok y    => op.holds (y.convert .double) x
    | .error _ => false

-- A comparison with NaN is the same as nothing.
def same : ValueFilter → ValueFilter → Bool
  | compare op x, compare op' x' => op == op' && x.same x'
  | f,            g              => f == g

end ValueFilter
end MemoBase
