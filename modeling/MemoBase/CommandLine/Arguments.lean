import MemoBase.CommandLine.Switch
import MemoBase.Filter.Memo

namespace MemoBase

namespace CommandLine

inductive Command
  | list
  | stats
  | document
  deriving DecidableEq

inductive MainSwitch
  | help
  | debug
  deriving DecidableEq

inductive Switch
  | help
  | filter
  | query
  | verbose
  | base (b : BaseFilter)
  | template
  deriving DecidableEq

-- The inner option of a template is empty if the switch is there and names none.
structure Arguments where
  command : Command
  input? : Option Text := none
  filter? : Option Text := none
  query? : Option Text := none
  verbose? : Option Nat := none
  base? : Option BaseFilter := none
  template? : Option (Option Text) := none
  debug : Nat := 0
  deriving DecidableEq

def mainSwitches : Switches MainSwitch where
  names := [("-h".toList, .help), ("--help".toList, .help), ("-d".toList, .debug),
    ("--debug".toList, .debug)]
  takesValue _ := false

def Command.ofName? (s : Text) : Option Command :=
  [("list".toList, list), ("stats".toList, stats), ("export".toList, document)].lookup s

def Command.switches (c : Command) : Switches Switch where
  names := [("-h".toList, .help), ("--help".toList, .help), ("--filter".toList, .filter),
    ("--mql".toList, .query), ("-v".toList, .verbose), ("--verbose".toList, .verbose),
    ("--all".toList, .base .all), ("--system".toList, .base .system),
    ("--data".toList, .base .data)] ++
    if c = .document then [("--template".toList, .template)] else []
  takesValue s := s = .filter || s = .query || s = .template

namespace Arguments

section Words

variable (dialect : Dialect)

def value? (v : Text) : Option Text :=
  if dialect = .older ∧ v = "--".toList then none else some v

-- One base filter at most is chosen.
def set (a : Arguments) (s : Switch) (v : Text) : Except Ending Arguments :=
  match s with
  | .help     => .error .help
  | .filter   => .ok { a with filter? := value? dialect v }
  | .query    => .ok { a with query? := value? dialect v }
  | .verbose  => .ok { a with verbose? := some (a.verbose?.getD 0 + 1) }
  | .template => .ok { a with template? := some (value? dialect v) }
  | .base b   => if a.base?.any (· ≠ b) then .error .misuse else .ok { a with base? := some b }

def setAll (a : Arguments) (given : List (Switch × Option Text)) : Except Ending Arguments :=
  given.foldlM (fun a g => a.set dialect g.1 (g.2.getD [])) a

-- The last switch of a word may need the next word for its value.
def needsWord (sw : Switches Switch) (given : List (Switch × Option Text)) : Bool :=
  match given.getLast? with
  | some (s, none) => sw.takesValue s
  | _              => false

def giveWord (given : List (Switch × Option Text)) (v : Text) : List (Switch × Option Text) :=
  given.dropLast ++ given.getLast?.toList.map fun g => (g.1, some v)

-- What is known after some words: the arguments, whether the input is settled, and whether a word is
-- left over.
structure Progress where
  args : Arguments
  settled : Bool := false
  stray : Bool := false

def read (sw : Switches Switch) (p : Progress) : List (Token Switch) → Except Ending Progress
  | []              => .ok p
  | .unknown :: ts  => read sw { p with stray := true } ts
  | .dashes :: ts   =>
    if p.settled then read sw { p with stray := true } ts
    else
      match ts with
      | .word s :: ts => read sw { p with args.input? := some s, settled := true } ts
      | ts            => read sw { p with settled := true } ts
  | .word s :: ts   =>
    if p.settled then read sw { p with stray := true } ts
    else
      let p := { p with args.input? := some s, settled := true }
      match ts with
      | .dashes :: ts => read sw p ts
      | ts            => read sw p ts
  | .switch f :: ts => do
    let ⟨given, stray⟩ ← sw.spelled dialect f
    let p := { p with stray := p.stray || stray }
    if needsWord sw given then
      match ts with
      | .word v :: ts => read sw { p with args := ← p.args.setAll dialect (giveWord given v) } ts
      | _             => .error .misuse
    else read sw { p with args := ← p.args.setAll dialect given } ts

def ofWords (c : Command) (debug : Nat) (stray : Bool) (ws : List Text) :
    Except Ending Arguments := do
  let ts ← c.switches.tokens ws
  let p ← read dialect c.switches { args := { command := c, debug }, stray } ts
  if p.stray ∨ (c = .document ∧ p.args.template? = none) then .error .misuse else .ok p.args

-- The switches in front of the command, and then the command with all that follows.
def readMain (debug : Nat) (stray : Bool) : List (Text × Token MainSwitch) → Except Ending Arguments
  | []                     => .error .misuse
  | (s, .word _) :: ws     =>
    match Command.ofName? s with
    | some c => ofWords dialect c debug stray (ws.map (·.1))
    | none   => .error .misuse
  | (_, .dashes) :: _      => .error .misuse
  | (_, .unknown) :: ws    => readMain debug true ws
  | (_, .switch f) :: ws   => do
    let ⟨given, left⟩ ← mainSwitches.spelled dialect f
    if given.any (·.1 = .help) then .error .help
    else readMain (debug + given.length) (stray || left) ws

def ofMain (ws : List Text) : Except Ending Arguments := do
  readMain dialect 0 false (ws.zip (← mainSwitches.tokens ws))

end Words

end Arguments
end CommandLine
end MemoBase
