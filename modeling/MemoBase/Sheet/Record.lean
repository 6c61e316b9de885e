import MemoBase.Memo.Basic
import MemoBase.Sheet.Statement

namespace MemoBase

-- All values of an entry share their attributes.
structure Entry where
  key : Text
  values : List Value
  attrs : Attrs
  deriving DecidableEq

structure Record where
  collection : Text
  title : Value
  attrs : Attrs
  entries : List Entry
  deriving DecidableEq

def Entry.nodes (e : Entry) : List Node :=
  e.values.map fun v => ⟨e.key, v, e.attrs⟩

def Record.memo (r : Record) : Memo where
  header := ⟨r.collection, r.title, r.attrs⟩
  data := r.entries.flatMap Entry.nodes

-- A record whose nodes share nothing.
def Memo.record (m : Memo) : Record where
  collection := m.header.key
  title := m.header.value
  attrs := m.header.attrs
  entries := m.data.map fun n => ⟨n.key, [n.value], n.attrs⟩

-- The end of a sheet: attributes and entries that wait for what they belong to, then records.
structure Sheet where
  attrs : List (Text × Value)
  entries : List Entry
  records : List Record
  deriving DecidableEq

namespace Sheet

def cons : Statement → Sheet → Sheet
  | .attr key v,      s => { s with attrs := (key, v) :: s.attrs }
  | .data key vs,     s => { s with attrs := [], entries := ⟨key, vs, .ofPairs s.attrs⟩ :: s.entries }
  | .header key v,    s => ⟨[], [], ⟨key, v, .ofPairs s.attrs, s.entries⟩ :: s.records⟩

def ofStatements (ss : List Statement) : Sheet :=
  ss.foldr cons ⟨[], [], []⟩

-- What stands above the first header belongs to nothing and is dropped.
def ofText (s : Text) : List Record :=
  (ofStatements (Statement.ofText s)).records

end Sheet

-- The memos that a text holds by itself.
def Memo.ofText (s : Text) : List Memo :=
  (Sheet.ofText s).map Record.memo

end MemoBase
