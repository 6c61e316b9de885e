import MemoBase.Filter.Node

namespace MemoBase

structure MemoFilter where
  conditions : List NodeFilter
  deriving DecidableEq

namespace MemoFilter

variable (f : MemoFilter) (m : Memo)

def and (g : MemoFilter) : MemoFilter :=
  ⟨f.conditions ++ g.conditions⟩

def keyEquals (key value : Text) : MemoFilter :=
  ⟨[{ key := .equals key, value := .equals value }]⟩

def check : Bool :=
  f.conditions.all (·.check m)

def positions : List Nat :=
  let ps := f.conditions.map (·.positions m)
  (List.range m.nodes.length).filter fun i => ps.any (·.contains i)

def select : List Node :=
  (f.positions m).filterMap (m.nodes[·]?)

def filter (ms : List Memo) : List Memo :=
  ms.filter f.check

end MemoFilter

-- The memos that are looked at before any other condition.
inductive BaseFilter
  | all
  | system
  | data
  deriving DecidableEq

namespace BaseFilter

def systemHead : Text :=
  "mr:".toList

def memoFilter : BaseFilter → MemoFilter
  | all    => ⟨[]⟩
  | system => ⟨[{ scope := .header, key := .starts systemHead }]⟩
  | data   => ⟨[{ scope := .header, key := .startsNot systemHead }]⟩

def name : BaseFilter → Text
  | all    => "all".toList
  | system => "system".toList
  | data   => "data".toList

def ofName? (s : Text) : Option BaseFilter :=
  [all, system, data].find? (·.name = s)

def unknown (s : Text) : Text :=
  s.quoted ++ " is not a valid DefaultFilter".toList

end BaseFilter
end MemoBase
