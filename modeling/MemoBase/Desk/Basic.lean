import MemoBase.Sheet.Record

namespace MemoBase

namespace Desk

-- A node that lies on the desk. Its attributes are in a slot, which other nodes may have as well.
structure Place where
  key : Text
  value : Value
  slot : Nat
  deriving DecidableEq

-- The nodes of a memo by the numbers of their places. A node can be on more than one card.
structure Card where
  header : Nat
  data : List Nat
  deriving DecidableEq

namespace Card

def nodes (c : Card) : List Nat :=
  c.header :: c.data

def append (is : List Nat) (c : Card) : Card :=
  { c with data := c.data ++ is }

end Card

end Desk

-- The nodes of a record when the next free slot is `n`: one slot for the header and one for each entry.
def Record.places (r : Record) (n : Nat) : List Desk.Place :=
  ⟨r.collection, r.title, n⟩ :: (r.entries.zipIdx (n + 1)).flatMap fun e =>
    e.1.values.map (⟨e.1.key, ·, e.2⟩)

-- Memos that can be worked on.
structure Desk where
  cards : List Desk.Card := []
  places : List Desk.Place := []
  slots : List Attrs := []
  deriving DecidableEq

namespace Desk

variable (d : Desk)

def place (i : Nat) : Place :=
  d.places.getD i ⟨[], .text [], 0⟩

def node (p : Place) : Node where
  key := p.key
  value := p.value
  attrs := d.slots.getD p.slot []

def nodeAt (i : Nat) : Node :=
  d.node (d.place i)

def memo (c : Card) : Memo where
  header := d.nodeAt c.header
  data := c.data.map d.nodeAt

def memos : List Memo :=
  d.cards.map d.memo

def number? (card pos : Nat) : Option Nat := do
  (← d.cards[card]?).nodes[pos]?

def place? (card pos : Nat) : Option Place :=
  (d.number? card pos).map d.place

def putRecord (r : Record) : Desk where
  cards := d.cards ++ [{
    header := d.places.length
    data := List.range' (d.places.length + 1) (r.entries.flatMap (·.values)).length }]
  places := d.places ++ r.places d.slots.length
  slots := d.slots ++ r.attrs :: r.entries.map (·.attrs)

def putRecords (rs : List Record) : Desk :=
  rs.foldl putRecord d

def putMemo (m : Memo) : Desk :=
  d.putRecord m.record

-- A new node, with attributes of its own.
def push (card : Nat) (n : Node) : Desk where
  cards := d.cards.modify card (·.append [d.places.length])
  places := d.places ++ [⟨n.key, n.value, d.slots.length⟩]
  slots := d.slots ++ [n.attrs]

-- The very node that is at a position of a card, put on a card once more.
def pushSame (card other pos : Nat) : Desk :=
  match d.number? other pos with
  | some i => { d with cards := d.cards.modify card (·.append [i]) }
  | none   => d

-- The attribute changes for all nodes of the slot.
def setAttr (card pos : Nat) (key : Text) (v : Value) : Desk :=
  match d.place? card pos with
  | some p => { d with slots := d.slots.modify p.slot (·.set key v) }
  | none   => d

-- The node gets a slot of its own, on all cards that it is on.
def setAttrs (card pos : Nat) (as : List (Text × Value)) : Desk :=
  match d.number? card pos with
  | some i => { d with
      places := d.places.modify i ({ · with slot := d.slots.length })
      slots := d.slots ++ [.ofPairs as] }
  | none   => d

-- A node is equal to itself whatever its values are, and so are attributes in one slot.
def sameNode (i j : Nat) : Bool :=
  let p := d.place i
  let q := d.place j
  i == j || p.key == q.key && p.value.same q.value &&
    (p.slot == q.slot || (d.node p).attrs.same (d.node q).attrs)

def same (card other : Nat) : Bool :=
  match d.cards[card]?, d.cards[other]? with
  | some c, some c' =>
    c.data.length == c'.data.length && (c.nodes.zip c'.nodes).all fun p => d.sameNode p.1 p.2
  | _,      _       => false

end Desk

-- What can be done on a desk. Cards and positions count from zero.
inductive Desk.Step
  | parse (rs : List Record)
  | new (m : Memo)
  | push (card : Nat) (n : Node)
  | pushSame (card other pos : Nat)
  | attr (card pos : Nat) (key : Text) (v : Value)
  | attrs (card pos : Nat) (as : List (Text × Value))

namespace Desk

def run (d : Desk) : Step → Desk
  | .parse rs                => d.putRecords rs
  | .new m                   => d.putMemo m
  | .push card n             => d.push card n
  | .pushSame card other pos => d.pushSame card other pos
  | .attr card pos key v     => d.setAttr card pos key v
  | .attrs card pos as       => d.setAttrs card pos as

def runAll (d : Desk) (steps : List Step) : Desk :=
  steps.foldl run d

end Desk
end MemoBase
