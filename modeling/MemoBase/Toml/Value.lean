import MemoBase.Number.Binary
import MemoBase.Text.Basic

namespace MemoBase

namespace Toml

inductive Moment
  | date
  | time
  | dateTime
  deriving DecidableEq

-- What a date or time says is of no use to anyone here.
inductive Value
  | text (s : Text)
  | integer (n : Int)
  | float (x : Double)
  | bool (b : Bool)
  | moment (m : Moment)
  | array (vs : List Value)
  | table (pairs : List (Text × Value))

-- The pairs are in the order in which their keys came.
abbrev Table :=
  List (Text × Value)

-- A key of several parts leads through tables.
abbrev Key :=
  List Text

inductive Fault
  | malformed
  | longInteger (digits : Nat)
  deriving DecidableEq

namespace Value

def isNest : Value → Bool
  | array _ | table _ => true
  | _                 => false

-- What counts as nothing at all.
def isNothing : Value → Bool
  | text s    => s.isEmpty
  | integer n => n = 0
  | float x   => x.same (.zero false)
  | bool b    => !b
  | moment _  => false
  | array vs  => vs.isEmpty
  | table ps  => ps.isEmpty

def shortKind : Value → Text
  | text _           => "str".toList
  | integer _        => "int".toList
  | float _          => "float".toList
  | bool _           => "bool".toList
  | moment .date     => "date".toList
  | moment .time     => "time".toList
  | moment .dateTime => "datetime".toList
  | array _          => "list".toList
  | table _          => "dict".toList

-- Dates and times belong to a part of the library that is named in front of them.
def kind : Value → Text
  | moment m => "datetime.".toList ++ (moment m).shortKind
  | v        => v.shortKind

end Value

namespace Table

def replace (ps : Table) (k : Text) (v : Value) : Table :=
  ps.map fun p => if p.1 = k then (k, v) else p

-- Nothing is given twice.
def add (k : Text) (v : Value) (ps : Table) : Except Fault Table :=
  if (ps.lookup k).isSome then .error .malformed else .ok (ps ++ [(k, v)])

-- One more table for the array under a key.
def addTable (k : Text) (ps : Table) : Except Fault Table :=
  match ps.lookup k with
  | none             => .ok (ps ++ [(k, .array [.table []])])
  | some (.array vs) => .ok (replace ps k (.array (vs ++ [.table []])))
  | some _           => .error .malformed

-- Changes the table at the end of a path. Tables that are missing on the way are made, and an array
-- stands for its last table if `arrays` holds.
def alter (arrays : Bool) (f : Table → Except Fault Table) : Key → Table → Except Fault Table
  | [],      ps => f ps
  | k :: ks, ps =>
    match ps.lookup k with
    | none             => (alter arrays f ks []).map fun qs => ps ++ [(k, .table qs)]
    | some (.table qs) => (alter arrays f ks qs).map fun qs => replace ps k (.table qs)
    | some (.array vs) =>
      match arrays, vs.getLast? with
      | true, some (.table qs) =>
        (alter arrays f ks qs).map fun qs => replace ps k (.array (vs.dropLast ++ [.table qs]))
      | _, _ => .error .malformed
    | some _           => .error .malformed

end Table
end Toml
end MemoBase
