import MemoBase.Value

namespace MemoBase

-- Values by key, in the order in which the keys were first assigned.
abbrev Attrs :=
  List (Text × Value)

namespace Attrs

def get? (key : Text) (as : Attrs) : Option Value :=
  as.lookup key

-- A key that is there keeps its place.
def set (key : Text) (v : Value) : Attrs → Attrs
  | []      => [(key, v)]
  | a :: as => if a.1 = key then (key, v) :: as else a :: set key v as

def ofPairs (ps : List (Text × Value)) : Attrs :=
  ps.foldl (fun as p => as.set p.1 p.2) []

-- The order of the keys does not count.
def same (as bs : Attrs) : Bool :=
  as.length == bs.length && as.all fun a => (bs.get? a.1).any (a.2.same ·)

end Attrs
end MemoBase
