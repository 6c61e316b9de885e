import MemoBase.CommandLine.Run

namespace MemoBase

namespace Program

def variableNames : List String :=
  ["MERULA_FILE", "MERULA_VERBOSITY", "MERULA_DEFAULT_FILTER", "MERULA_LOG_LEVEL"]

def environment : IO Environment := do
  let vars ← variableNames.filterMapM fun name => do
    return (← IO.getEnv name).map fun v => (name.toList, v.toList)
  let home? ← IO.getEnv "HOME"
  return { vars, homes := home?.toList.map fun home => ([], home.toList) }

-- What a file or directory holds, if it exists.
def content? (names : List Text) : IO (Option Content) := do
  match ← (IO.FS.readBinFile (String.ofList ('/' :: Text.join ['/'] names))).toBaseIO with
  | .ok bytes                     => return some (.file bytes.toList)
  | .error (.noFileOrDirectory ..) => return none
  | .error _                      => return some .dir

-- Every part of a path is looked at on the way.
def look (d : Disk) (here : List Text) : List Text → IO Disk
  | []      => return d
  | p :: ps => do
    let next := Path.collapse (here ++ [p])
    if (d.entries.lookup next).isSome || next.isEmpty then look d next ps
    else
      match ← content? next with
      | some c => look { d with entries := d.entries ++ [(next, c)] } next ps
      | none   => return d

def gather (env : Environment) (words : List Text) (d : Disk) : IO Disk :=
  (CommandLine.needs d env words).foldlM (fun d p => look d [] (d.workingDir.join p).parts) d

def print (p : CommandLine.Print) : IO Unit :=
  match p.channel with
  | .output   => IO.println (String.ofList p.text)
  | .messages => IO.eprintln (String.ofList p.text)

def usage : String :=
  "usage: merula [-h] [-d] COMMAND [input] [--filter NAME] [--mql QUERY] [-v] " ++
    "[--all | --system | --data] [--template NAME]"

end Program
end MemoBase

open MemoBase in
def main (args : List String) : IO UInt32 := do
  let words := args.map String.toList
  let env ← Program.environment
  let start : Disk := ⟨.ofText (toString (← IO.currentDir)).toList, []⟩
  -- The settings, the input and what it includes become known one after the other.
  let d ← Program.gather env words start
  let d ← Program.gather env words d
  let d ← Program.gather env words d
  match CommandLine.run d env words with
  | .usage .help   =>
    IO.println Program.usage
    return 0
  | .usage .misuse =>
    IO.eprintln Program.usage
    return 2
  | .finished r    =>
    r.prints.forM Program.print
    return UInt32.ofNat r.status
  | .failed f ps   =>
    ps.forM Program.print
    IO.eprintln (String.ofList f.message)
    return 1
