import MemoBase.Command.Listing
import MemoBase.Command.Template
import MemoBase.CommandLine.Console
import MemoBase.CommandLine.Host
import MemoBase.Sheet.Include

namespace MemoBase

namespace CommandLine

-- Failures that the program does not report by itself.
inductive Failure
  | settings (e : SettingsError)
  | file (e : FileError)
  | query (e : QueryError)
  deriving DecidableEq

structure Result where
  status : Nat
  prints : List Print
  deriving DecidableEq

inductive Outcome
  | usage (e : Ending)
  | finished (r : Result)
  | failed (f : Failure) (prints : List Print)
  deriving DecidableEq

def Failure.message : Failure → Text
  | settings e => e.message
  | file e     => e.message
  | query e    => e.message

def Print.on (c : Channel) (ps : List Print) : List Text :=
  (ps.filter (·.channel = c)).map (·.text)

def Result.output (r : Result) : Text :=
  (Print.on .output r.prints).flatMap (· ++ ['\n'])

def Result.messages (r : Result) : List Text :=
  Print.on .messages r.prints

-- The input file as it is shown, and its path.
structure Input where
  shown : Text
  path : Path

def message (s : Text) : Text :=
  "merula: ".toList ++ s

def input? (a : Arguments) (s : Settings) : Option Input :=
  match MemoFilter.given a.input? with
  | some name => some ⟨name, .ofText name⟩
  | none      => s.file?.map fun p => ⟨p.text, p⟩

-- No name at all is shown as an empty list.
def document (ms : List Memo) (name? : Option Text) (f : MemoFilter) : Except CommandError Text :=
  match name? with
  | some name => Template.document ms name f
  | none      => .error (.noTemplate ['[', ']'])

def giveUp (s : Text) : Console Failure Nat := do
  Console.print .messages (message s)
  return 1

-- A numeral that is too long is no fault of the program's own kind.
def report : CommandError → Console Failure Nat
  | .query (.longNumeral n) => .fail (.query (.longNumeral n))
  | e                       => giveUp e.message

section Command

open Console

variable (a : Arguments) (s : Settings) (shown : Text) (ms : List Memo)

def printText (f : MemoFilter) : Console CommandError Unit :=
  match a.command with
  | .list     => print .output (f.listing ((a.verbose?.map Int.ofNat).getD s.verbosity) ms)
  | .stats    => do
    print .output ("Statistics for '".toList ++ shown ++ "':".toList)
    print .output ("#Memos = ".toList ++ Text.ofNat (f.stats ms).memos)
    print .output ("#Nodes = ".toList ++ Text.ofNat (f.stats ms).nodes)
  | .document => do
    print .output (← ofExcept (document ms a.template?.join f))

def command : Console CommandError Unit := do
  printText a s shown ms (← ofExcept (MemoFilter.build ms (a.base?.getD s.base) a.filter? a.query?))

def perform : Console Failure Nat :=
  rescue (do command a s shown ms; return 0) report

end Command

def runOn (d : Disk) (a : Arguments) (s : Settings) : Console Failure Nat :=
  match input? a s with
  | none       => giveUp "no input file given (argument or MERULA_FILE)".toList
  | some input =>
    let reading := d.readSheet input.path
    match reading.memos with
    | .error (.fault f p) =>
      giveUp ("cannot read '".toList ++ input.shown ++ "': ".toList ++
        (FileError.fault f p).message)
    | .error e           => .fail (.file e)
    | .ok ms             => do
      Console.printAll .messages (reading.rejected.map fun r => message r.message)
      perform a s input.shown ms

def Outcome.ofConsole (x : Console Failure Nat) : Outcome :=
  match x.ending with
  | .ok n    => .finished ⟨n, x.prints⟩
  | .error f => .failed f x.prints

-- The debug switch comes before the level of the settings, which has to be a text.
def levelName (a : Arguments) (s : Settings) : Except SettingsError Text :=
  if a.debug = 1 then .ok "INFO".toList
  else if 2 ≤ a.debug then .ok "DEBUG".toList
  else
    match s.logLevel with
    | .text name => .ok name
    | _          => .error .notText

-- What is known when the work begins.
def Host.start (h : Host) (d : Disk) (env : Environment) (a : Arguments) :
    Except SettingsError Settings := do
  let s ← Settings.loadWith h.settings d env none
  h.startLog (← levelName a s)
  return s

def Host.run (h : Host) (d : Disk) (env : Environment) (words : List Text) : Outcome :=
  match h.arguments words with
  | .error e => .usage e
  | .ok a    =>
    match h.start d env a with
    | .error e => .failed (.settings e) []
    | .ok s    => .ofConsole (runOn d a s)

-- The files that a run looks at, as far as the files that are known tell.
def Host.needs (h : Host) (d : Disk) (env : Environment) (words : List Text) : List Path :=
  Settings.candidates d env ++
    match h.arguments words, Settings.loadWith h.settings d env none with
    | .ok a, .ok s =>
      match input? a s with
      | none       => []
      | some input => input.path ::
        match d.read input.path with
        | .ok t    => (Sheet.includes (Sheet.ofText t)).map (input.path.parent.join <| .ofText ·)
        | .error _ => []
    | _, _ => []

def run : Disk → Environment → List Text → Outcome :=
  (Host.standard .older).run

def needs : Disk → Environment → List Text → List Path :=
  (Host.standard .older).needs

end CommandLine
end MemoBase
