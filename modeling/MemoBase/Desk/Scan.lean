import MemoBase.Desk.Basic

namespace MemoBase

-- A sheet that is put on a desk while it is read. The scan knows the card that the next data go to and
-- the slot that the next attribute goes to. A line takes effect when the next one shows that it is complete.
structure Scan where
  desk : Desk := {}
  card? : Option Nat := none
  target? : Option Nat := none
  draft? : Option Draft := none
  deriving DecidableEq

namespace Scan

variable (x : Scan)

def putHeader (key : Text) (title : Value) : Scan where
  desk := {
    cards := x.desk.cards ++ [⟨x.desk.places.length, []⟩]
    places := x.desk.places ++ [⟨key, title, x.desk.slots.length⟩]
    slots := x.desk.slots ++ [[]] }
  card? := some x.desk.cards.length
  target? := some x.desk.slots.length
  draft? := x.draft?

-- Without values there is no node that attributes could go to.
def putData (card : Nat) (key : Text) (values : List Value) : Scan where
  desk := {
    cards := x.desk.cards.modify card (·.append (List.range' x.desk.places.length values.length))
    places := x.desk.places ++ values.map (⟨key, ·, x.desk.slots.length⟩)
    slots := x.desk.slots ++ [[]] }
  card? := x.card?
  target? := if values = [] then none else some x.desk.slots.length
  draft? := x.draft?

def putAttr (slot : Nat) (key : Text) (v : Value) : Scan :=
  { x with desk := { x.desk with slots := x.desk.slots.modify slot (·.set key v) } }

-- What has no header above it is dropped, and so is an attribute without a target.
def put : Statement → Scan
  | .header key v => x.putHeader key v
  | .data key vs  =>
    match x.card? with
    | some card => x.putData card key vs
    | none      => x
  | .attr key v   =>
    match x.card?, x.target? with
    | some _, some slot => x.putAttr slot key v
    | _,      _         => x

def putAll (ss : List Statement) : Scan :=
  ss.foldl put x

def step (raw : Text) : Scan :=
  { x.putAll (Statement.step x.draft? raw).2 with draft? := (Statement.step x.draft? raw).1 }

def ofLines (ls : List Text) : Scan :=
  ls.foldl step {}

-- The end of the sheet finishes the last line as it is.
def close : Scan :=
  { x.putAll (x.draft?.map Draft.finish).toList with draft? := none }

def ofText (s : Text) : Scan :=
  (ofLines s.lines).close

end Scan
end MemoBase
