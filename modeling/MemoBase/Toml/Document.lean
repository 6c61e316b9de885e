import MemoBase.Text.Lines
import MemoBase.Toml.Plain

namespace MemoBase

namespace Toml

section Nests

-- Reads the values that stand inside.
variable (value : Reader Value)

-- The numbers bound the values here. A comma may follow the last one of an array.
def elements : Nat → Reader (List Value)
  | 0,     _ => .error .malformed
  | n + 1, s => do
    match ← skipLines false s with
    | ']' :: s => .ok ([], s)
    | s        =>
      let (v, s) ← value s
      match ← skipLines false s with
      | ']' :: s => .ok ([v], s)
      | ',' :: s => (elements n s).map fun (vs, s) => (v :: vs, s)
      | _        => .error .malformed

def pair (n : Nat) : Reader (Key × Value) := fun s => do
  match ← key n s with
  | (k, '=' :: s) => (value (skip s)).map fun (v, s) => ((k, v), s)
  | _             => .error .malformed

-- What a key of a table in braces holds is not changed by later keys.
def entries (fixed : List Key) (ps : Table) : Nat → Reader Table
  | 0,     _ => .error .malformed
  | n + 1, s => do
    let ((k, v), s) ← pair value n s
    if fixed.any (·.isPrefixOf k) then .error .malformed
    else
      let ps ← Table.alter false (Table.add (k.getLastD []) v) k.dropLast ps
      match skip s with
      | '\x7d' :: s => .ok (ps, s)
      | ',' :: s    => entries (if v.isNest then k :: fixed else fixed) ps n (skip s)
      | _           => .error .malformed

def inlineTable (n : Nat) : Reader Table := fun s =>
  match skip s with
  | '\x7d' :: s => .ok ([], s)
  | s           => entries value [] [] n s

end Nests

def value : Nat → Reader Value
  | 0,     _      => .error .malformed
  | _ + 1, []     => .error .malformed
  | n + 1, c :: s =>
    if c = '"' ∨ c = '\x27' then (quoted c s).map fun (t, s) => (.text t, s)
    else if c = '[' then (elements (value n) n s).map fun (vs, s) => (.array vs, s)
    else if c = '\x7b' then (inlineTable (value n) n s).map fun (ps, s) => (.table ps, s)
    else plain (c :: s)

-- A document as far as it has been read. Nothing is added inside a fixed key, and a declared one has
-- no header of its own any more. The awaited keys are declared with the next header.
structure Document where
  table : Table := []
  header : Key := []
  fixed : List Key := []
  declared : List Key := []
  awaited : List Key := []

namespace Document

def isFixed (d : Document) (k : Key) : Bool :=
  d.fixed.any (·.isPrefixOf k)

def tableHeader (d : Document) (k : Key) : Except Fault Document :=
  let declared := d.awaited ++ d.declared
  if declared.contains k || d.isFixed k then .error .malformed
  else do
    let table ← Table.alter true .ok k d.table
    return { d with table, header := k, declared := k :: declared, awaited := [] }

-- The keys inside the array are free again for its new table.
def arrayHeader (d : Document) (k : Key) : Except Fault Document :=
  if d.isFixed k then .error .malformed
  else do
    let table ← Table.alter true (Table.addTable (k.getLastD [])) k.dropLast d.table
    let others (ks : List Key) := ks.filter fun l => !k.isPrefixOf l
    return {
      table, header := k, fixed := others d.fixed
      declared := k :: others (d.awaited ++ d.declared) }

-- The keys between the header and the last part of a key.
def between (d : Document) (k : Key) : List Key :=
  (List.range' 1 (k.length - 1)).map fun i => d.header ++ k.take i

def put (d : Document) (k : Key) (v : Value) : Except Fault Document :=
  let holder := d.header ++ k.dropLast
  if (d.between k).any d.declared.contains || d.isFixed holder then .error .malformed
  else do
    let table ← Table.alter true (Table.add (k.getLastD []) v) holder d.table
    let fixed := if v.isNest then (d.header ++ k) :: d.fixed else d.fixed
    return { d with table, fixed, awaited := d.between k ++ d.awaited }

end Document

-- A header behind its opening bracket, with the brackets that close it.
def header (n : Nat) (closing : Text) (put : Key → Except Fault Document) : Reader Document :=
  fun s => do
    let (k, rest) ← key n (skip s)
    let d ← put k
    if closing.isPrefixOf rest then .ok (d, rest.drop closing.length) else .error .malformed

def statement (n : Nat) (d : Document) : Reader Document
  | '[' :: '[' :: s => header n "]]".toList d.arrayHeader s
  | '[' :: s        => header n "]".toList d.tableHeader s
  | '#' :: s        => .ok (d, '#' :: s)
  | s               => do
    let ((k, v), rest) ← pair (value n) n s
    return (← d.put k v, rest)

def statements : Nat → Document → Text → Except Fault Document
  | 0,     _, _ => .error .malformed
  | n + 1, d, s =>
    match skip s with
    | []        => .ok d
    | '\n' :: s => statements n d s
    | s         => do
      let (d, rest) ← statement n d s
      match ← skipComment (skip rest) with
      | []           => .ok d
      | '\n' :: rest => statements n d rest
      | _            => .error .malformed

-- No loop comes to the end of the number that bounds it.
def ofText (s : Text) : Except Fault Table :=
  let s := s.unifyBreaks
  (statements (s.length + 2) {} s).map (·.table)

end Toml
end MemoBase
