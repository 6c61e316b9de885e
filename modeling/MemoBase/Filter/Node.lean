import MemoBase.Filter.Index
import MemoBase.Filter.Key
import MemoBase.Filter.Value
import MemoBase.Memo.Basic

namespace MemoBase

structure NodeFilter where
  scope : Scope := .any
  key : KeyFilter := .any
  index : IndexFilter := .any
  value : ValueFilter := .any
  deriving DecidableEq

namespace NodeFilter

variable (f : NodeFilter) (m : Memo)

-- The nodes in scope with a suitable key, numbered from zero. Of these the number and the value have
-- to pass.
def candidates : List (Nat × Node) :=
  (m.enumerate f.scope).filter fun p => f.key.check p.2.key

def hits : List (Nat × Node) :=
  (f.candidates m).zipIdx.filter (fun c => f.index.check c.2 && f.value.check c.1.2.value)
    |>.map (·.1)

def check : Bool :=
  !(f.hits m).isEmpty

def select : List Node :=
  (f.hits m).map (·.2)

def positions : List Nat :=
  (f.hits m).map (·.1)

def same (g : NodeFilter) : Bool :=
  f.scope == g.scope && f.key == g.key && f.index == g.index && f.value.same g.value

end NodeFilter
end MemoBase
