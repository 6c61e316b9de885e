import MemoBase.Filter.Memo

namespace MemoBase.MemoFilter

variable (f : MemoFilter)

def headline (m : Memo) : Text :=
  Text.dropTrailing (· == ' ') ('@' :: m.collection ++ ' ' :: m.title)

-- The header stands in the headline already.
def selectedData (m : Memo) : List Node :=
  ((f.positions m).filter (0 < ·)).filterMap (m.nodes[·]?)

-- From verbosity 1 on a block shows nodes and ends with an empty line.
def block (verbosity : Int) (m : Memo) : List Text :=
  let details (ns : List Node) := ns.map (·.write ['.']) ++ [[]]
  headline m ::
    if verbosity ≤ 0 then []
    else if verbosity = 1 then details (f.selectedData m)
    else details m.data

def listing (verbosity : Int) (ms : List Memo) : Text :=
  Text.joinLines ((f.filter ms).flatMap (f.block verbosity))

structure Stats where
  memos : Nat
  nodes : Nat
  deriving DecidableEq

def stats (ms : List Memo) : Stats where
  memos := (f.filter ms).length
  nodes := ((f.filter ms).flatMap Memo.nodes).length

end MemoBase.MemoFilter
