import MemoBase.Files.Disk
import MemoBase.Sheet.Record

namespace MemoBase

inductive Reason
  | recursive
  | nested
  deriving DecidableEq

def Reason.text : Reason → Text
  | recursive => "recursive include".toList
  | nested    => "nested include".toList

-- The trail holds the sheets on the way to the include, outermost first.
structure Rejection where
  path : Path
  trail : List Path
  reason : Reason
  deriving DecidableEq

def Rejection.message (r : Rejection) : Text :=
  "include of '".toList ++ r.path.text ++ "' rejected (".toList ++ r.reason.text ++ "): ".toList ++
    Text.join " -> ".toList ((r.trail ++ [r.path]).map Path.text)

structure Reading where
  outcome : Except FileError (List Record)
  rejected : List Rejection

namespace Reading

def own (rs : List Record) : Reading :=
  ⟨.ok rs, []⟩

def reject (r : Rejection) : Reading :=
  ⟨.ok [], [r]⟩

def fail (e : FileError) : Reading :=
  ⟨.error e, []⟩

-- What was rejected before an error stays known.
def append (r₁ r₂ : Reading) : Reading :=
  match r₁.outcome with
  | .error _ => r₁
  | .ok rs   => ⟨r₂.outcome.map (rs ++ ·), r₁.rejected ++ r₂.rejected⟩

def concat : List Reading → Reading :=
  List.foldr append (own [])

def memos (r : Reading) : Except FileError (List Memo) :=
  r.outcome.map (·.map Record.memo)

end Reading

namespace Sheet

def includeCollection : Text :=
  "mr:include".toList

def includes (rs : List Record) : List Text :=
  rs.filter (·.collection = includeCollection) |>.map (·.title.display)

def expand (follow : Text → Reading) (s : Text) : Reading :=
  (Reading.own (ofText s)).append (.concat ((includes (ofText s)).map follow))

end Sheet

namespace Disk

variable (d : Disk)

-- The number counts the levels that may still be entered.
def follow : Nat → Path → List Path → Text → Reading
  | levels, dir, trail, name =>
    let path := dir.join (Path.ofText name)
    if path.hasNul then .fail .nul
    else if d.resolve path ∈ trail then .reject ⟨path, trail, .recursive⟩
    else
      match levels with
      | 0          => .reject ⟨path, trail, .nested⟩
      | levels + 1 =>
        match d.read path with
        | .error e => .fail e
        | .ok s    => Sheet.expand (follow levels path.parent (trail ++ [d.resolve path])) s

def maxLevels : Nat := 1

def readSheet (p : Path) : Reading :=
  match d.read p with
  | .error e => .fail e
  | .ok s    => Sheet.expand (d.follow maxLevels p.parent [d.resolve p]) s

def readText (dir : Path) (s : Text) : Reading :=
  Sheet.expand (d.follow maxLevels dir []) s

end Disk
end MemoBase
