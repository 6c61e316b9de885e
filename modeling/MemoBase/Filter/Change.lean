import MemoBase.Filter.Node

namespace MemoBase

namespace NodeFilter

-- The parts that are given replace those of a condition.
structure Change where
  scope? : Option Scope := none
  key? : Option KeyFilter := none
  index? : Option IndexFilter := none
  value? : Option ValueFilter := none

namespace Change

def apply (c : Change) (f : NodeFilter) : NodeFilter where
  scope := c.scope?.getD f.scope
  key := c.key?.getD f.key
  index := c.index?.getD f.index
  value := c.value?.getD f.value

-- Whether a changed copy is equal to the condition. A value part that is kept is equal to itself.
def keeps (c : Change) (f : NodeFilter) : Bool :=
  let g := c.apply f
  f.scope == g.scope && f.key == g.key && f.index == g.index &&
    (c.value?.isNone || f.value.same g.value)

end Change
end NodeFilter

end MemoBase
