import MemoBase.Text.Basic
import MemoBase.Text.Digit

namespace MemoBase

namespace CommandLine

-- Why reading a command line ends early.
inductive Ending
  | help
  | misuse
  deriving DecidableEq

-- The switches of a command, with their names in order.
structure Switches (α : Type) where
  names : List (Text × α)
  takesValue : α → Bool

-- Readings of a command line differ in a few words: in `-v=v` and the like, which may or may not be
-- several short switches, in `-vx`, where an unknown letter is a mistake at once or a word that is
-- left over, and in two hyphens behind an equals sign, which are no value or a value like any other.
inductive Dialect
  | older
  | newer
  deriving DecidableEq

-- A switch under one of its names, with what is attached to the name.
structure Found (α : Type) where
  switch : α
  name : Text
  attached? : Option Text
  byEquals : Bool := false

-- The switches that a word gives, with the values that it holds for them.
structure Spelling (α : Type) where
  given : List (α × Option Text) := []
  stray : Bool := false

inductive Token (α : Type)
  | word (s : Text)
  | dashes
  | switch (f : Found α)
  | unknown

namespace Switches

variable {α : Type} (sw : Switches α)

-- The part up to the first equals sign, and what comes after it.
def splitEquals (s : Text) : Text × Option Text :=
  match s.cut (· != '=') with
  | (name, _ :: rest) => (name, some rest)
  | (name, [])        => (name, none)

def named? (s : Text) : Option (Found α) :=
  match sw.names.lookup s with
  | some a => some ⟨a, s, none, false⟩
  | none   =>
    match splitEquals s with
    | (name, some rest) => (sw.names.lookup name).map (⟨·, name, some rest, true⟩)
    | _                 => none

-- All switches that a word may stand for.
def guesses (s : Text) : List (Found α) :=
  if "--".toList.isPrefixOf s then
    let (head, rest?) := splitEquals s
    sw.names.filterMap fun (name, a) =>
      if head.isPrefixOf name then some ⟨a, name, rest?, rest?.isSome⟩ else none
  else
    sw.names.filterMap fun (name, a) =>
      if name = s.take 2 then some ⟨a, name, some (s.drop 2), false⟩
      else if s.isPrefixOf name then some ⟨a, name, none, false⟩
      else none

-- Negative numbers are words; a line feed may follow them.
def isNegative (s : Text) : Bool :=
  let body (t : Text) : Bool :=
    let (ds, rest) := t.cut Text.isDigit
    (ds ≠ [] ∧ rest = []) ||
      match rest with
      | '.' :: frac => frac ≠ [] ∧ frac.all Text.isDigit
      | _           => false
  match s with
  | '-' :: t => body t || (t.getLast? = some '\n' && body t.dropLast)
  | _        => false

def token (s : Text) : Except Ending (Token α) :=
  if s.head? ≠ some '-' then .ok (.word s)
  else
    match named? sw s with
    | some f => .ok (.switch f)
    | none   =>
      if s = ['-'] then .ok (.word s)
      else
        match guesses sw s with
        | _ :: _ :: _ => .error .misuse
        | [f]         => .ok (.switch f)
        | []          => .ok (if isNegative s || s.contains ' ' then .word s else .unknown)

def tokens : List Text → Except Ending (List (Token α))
  | []      => .ok []
  | s :: ss =>
    if s = "--".toList then .ok (.dashes :: ss.map .word)
    else do return (← token sw s) :: (← tokens ss)

-- Short switches after a short one that takes no value. The rest of the word is the value of the
-- first that takes one.
def cluster : Text → Except Ending (Spelling α)
  | []     => .ok {}
  | c :: s =>
    match sw.names.lookup ['-', c] with
    | none   => .error .misuse
    | some a =>
      if sw.takesValue a ∧ s ≠ [] then .ok { given := [(a, some s)] }
      else (cluster s).map fun p => { p with given := (a, none) :: p.given }

-- An equals sign sets off a value here, and a hyphen does not stand for a switch.
def newerCluster : Text → Except Ending (Spelling α)
  | []     => .ok {}
  | c :: s =>
    if c = '-' then .error .misuse
    else
      match sw.names.lookup ['-', c], s with
      | none,   _        => .ok { stray := true }
      | some a, []       => .ok { given := [(a, none)] }
      | some a, '=' :: v =>
        if sw.takesValue a then .ok { given := [(a, some v)] } else .error .misuse
      | some a, d :: v   =>
        if sw.takesValue a then .ok { given := [(a, some (d :: v))] }
        else (newerCluster (d :: v)).map fun p => { p with given := (a, none) :: p.given }

def spelled (dialect : Dialect) (f : Found α) : Except Ending (Spelling α) :=
  match f.attached? with
  | none   => .ok { given := [(f.switch, none)] }
  | some v =>
    if sw.takesValue f.switch then .ok { given := [(f.switch, some v)] }
    else if "--".toList.isPrefixOf f.name ∨ v = [] then .error .misuse
    else do
      let p ←
        match dialect with
        | .older => cluster sw v
        | .newer => if f.byEquals then .error .misuse else newerCluster sw v
      return { p with given := (f.switch, none) :: p.given }

end Switches
end CommandLine
end MemoBase
