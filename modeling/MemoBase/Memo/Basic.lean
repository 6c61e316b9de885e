import MemoBase.Memo.Node

namespace MemoBase

structure Memo where
  header : Node
  data : List Node
  deriving DecidableEq

-- The nodes of a memo that are looked at.
inductive Scope
  | header
  | data
  | any
  deriving DecidableEq

namespace Scope

def name : Scope → Text
  | header => "header".toList
  | data   => "data".toList
  | any    => "any".toList

def ofName? (s : Text) : Option Scope :=
  [header, data, any].find? (·.name = s)

def unknown (s : Text) : Text :=
  s.quoted ++ " is not a valid NodeType".toList

end Scope

namespace Memo

variable (m : Memo)

def collection : Text :=
  m.header.key

def title : Text :=
  m.header.value.display

def nodes : List Node :=
  m.header :: m.data

def push (n : Node) : Memo :=
  { m with data := m.data ++ [n] }

def last : Node :=
  m.data.getLastD m.header

def get? (key : Text) : Option Node :=
  m.nodes.find? (·.key == key)

def getAll (key : Text) : List Node :=
  m.nodes.filter (·.key == key)

def hasKey (key : Text) : Bool :=
  m.nodes.any (·.key == key)

def at? (pos : Int) : Option Node :=
  if pos < 0 then none else m.nodes[pos.toNat]?

-- The nodes in scope with their positions. The header has position 0.
def enumerate : Scope → List (Nat × Node)
  | .header => [(0, m.header)]
  | .data   => m.data.zipIdx 1 |>.map fun p => (p.2, p.1)
  | .any    => m.nodes.zipIdx 0 |>.map fun p => (p.2, p.1)

def write : Text :=
  Text.joinLines (m.header.write ['@'] :: m.data.map (·.write ['.'])) ++ ['\n']

def writeAll (ms : List Memo) : Text :=
  ms.flatMap write

def same (m₁ m₂ : Memo) : Bool :=
  m₁.data.length == m₂.data.length && (m₁.nodes.zip m₂.nodes).all fun p => p.1.same p.2

def sameAll (ms₁ ms₂ : List Memo) : Bool :=
  ms₁.length == ms₂.length && (ms₁.zip ms₂).all fun p => p.1.same p.2

-- A short description for messages.
def summary : Text :=
  "Memo(".toList ++ m.collection.quoted ++ ", ".toList ++ m.title.quoted ++ ", data=".toList ++
    Text.ofNat m.data.length ++ [')']

end Memo
end MemoBase
