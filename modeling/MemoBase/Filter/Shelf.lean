import MemoBase.Filter.Memo

namespace MemoBase

-- Filters by name. Conditions that are handed on from one of them to another stay the same thing, which
-- shows for comparisons with NaN.
structure Shelf where
  next : Nat := 0
  filters : List (Text × List (Nat × NodeFilter)) := []

namespace Shelf

variable (s : Shelf)

def labelled (name : Text) : List (Nat × NodeFilter) :=
  (s.filters.lookup name).getD []

def has (name : Text) : Bool :=
  (s.filters.lookup name).isSome

def get (name : Text) : MemoFilter :=
  ⟨(s.labelled name).map (·.2)⟩

def put (name : Text) (fs : List (Nat × NodeFilter)) : Shelf :=
  { s with filters := (name, fs) :: s.filters.filter (·.1 ≠ name) }

-- Every condition that is new gets a label of its own.
def label (fs : List NodeFilter) : List (Nat × NodeFilter) :=
  (fs.zipIdx s.next).map fun p => (p.2, p.1)

def define (name : Text) (f : MemoFilter) : Shelf :=
  { s.put name (s.label f.conditions) with next := s.next + f.conditions.length }

def add (name : Text) (f : NodeFilter) : Shelf :=
  { s.put name (s.labelled name ++ s.label [f]) with next := s.next + 1 }

def and (name a b : Text) : Shelf :=
  s.put name (s.labelled a ++ s.labelled b)

def extend (name other : Text) : Shelf :=
  s.and name name other

def same (a b : Text) : Bool :=
  let fs := s.labelled a
  let gs := s.labelled b
  fs.length == gs.length && (fs.zip gs).all fun p => p.1.1 == p.2.1 || p.1.2.same p.2.2

end Shelf
end MemoBase
