import MemoBase.Files.Disk
import MemoBase.Filter.Memo
import MemoBase.Number.Integer
import MemoBase.Text.Lower
import MemoBase.Toml.Document

namespace MemoBase

-- The home directories are listed by user; the own one belongs to the empty name.
structure Environment where
  vars : List (Text × Text) := []
  homes : List (Text × Text) := []

structure Settings where
  verbosity : Int
  base : BaseFilter
  file? : Option Path
  logLevel : Toml.Value

inductive SettingsError
  | file (e : FileError)
  | malformed
  | notText
  | notTable
  | notNumber (kind : Text)
  | notPath (kind : Text)
  | integer (e : IntegerError)
  | infinite
  | nan
  | unknownFilter (s : Text)
  | noHome
  | unknownLevel
  | notLevel
  deriving DecidableEq

def SettingsError.message : SettingsError → Text
  | file e          => e.message
  | malformed       => "the settings are malformed".toList
  | notText         => "a text is needed".toList
  | notTable        => "a table is needed".toList
  | notNumber kind  =>
    "int() argument must be a string, a bytes-like object or a real number, not '".toList ++ kind ++
      ['\x27']
  | notPath kind    => "expected str, bytes or os.PathLike object, not ".toList ++ kind
  | integer e       => e.message
  | infinite        => "cannot convert float infinity to integer".toList
  | nan             => "cannot convert float NaN to integer".toList
  | unknownFilter s => BaseFilter.unknown s
  | noHome          => "Could not determine home directory.".toList
  | unknownLevel    => "Unknown level: '%(levelname)s:%(name)s:%(message)s'".toList
  | notLevel        =>
    "Level not an integer or a valid string: \x7b'%': (<class 'logging.PercentStyle'>, ".toList ++
      "'%(levelname)s:%(name)s:%(message)s'), '\x7b': (<class 'logging.StrFormatStyle'>, ".toList ++
      "'\x7blevelname\x7d:\x7bname\x7d:\x7bmessage\x7d'), '$': ".toList ++
      "(<class 'logging.StringTemplateStyle'>, ".toList ++
      "'$\x7blevelname\x7d:$\x7bname\x7d:$\x7bmessage\x7d')\x7d".toList

namespace Environment

variable (env : Environment)

def get? (name : String) : Option Text :=
  env.vars.lookup name.toList

-- A first part with a tilde stands for a home directory.
def expandHome (p : Path) : Except SettingsError Path :=
  match p.root, p.parts with
  | [], ('~' :: user) :: rest =>
    match env.homes.lookup user with
    | some home => .ok { Path.ofText home with parts := (Path.ofText home).parts ++ rest }
    | none      => .error .noHome
  | _, _ => .ok p

def home? : Option Path :=
  (env.homes.lookup []).map Path.ofText

end Environment

namespace Settings

def fileName : List Text :=
  ["merula.toml".toList]

def homeFileName : List Text :=
  [".merula".toList, "merula.toml".toList]

def candidates (d : Disk) (env : Environment) : List Path :=
  d.workingDir.join ⟨[], fileName⟩ :: env.home?.toList.map (·.join ⟨[], homeFileName⟩)

def source? (d : Disk) (env : Environment) (path? : Option Path) :
    Except FileError (Option Path) :=
  (path?.toList ++ candidates d env).findM? d.exists?

def output (doc : Toml.Table) : Except SettingsError Toml.Table :=
  match doc.lookup "output".toList with
  | none             => .ok []
  | some (.table ps) => .ok ps
  | some _           => .error .notTable

-- What the environment sets, else the settings file.
def given (env : Environment) (name : String) (ps : Toml.Table) (key : String) :
    Option Toml.Value :=
  ((env.get? name).map .text).or (ps.lookup key.toList)

-- Fractions are cut off.
def integer : Toml.Value → Except SettingsError Int
  | .integer n => .ok n
  | .bool b    => .ok (if b then 1 else 0)
  | .text s    => (Integer.read s).mapError .integer
  | .float x   =>
    match x.truncate? with
    | some n => .ok n
    | none   => .error (if x.isNan then .nan else .infinite)
  | v          => .error (.notNumber v.kind)

def baseFilter : Toml.Value → Except SettingsError BaseFilter
  | .text s =>
    match BaseFilter.ofName? s.lower with
    | some b => .ok b
    | none   => .error (.unknownFilter s.lower)
  | _       => .error .notText

-- Nothing is as good as no file.
def file (env : Environment) (v : Toml.Value) : Except SettingsError (Option Path) :=
  if v.isNothing then .ok none
  else
    match v with
    | .text s => (env.expandHome (.ofText s)).map some
    | v       => .error (.notPath v.shortKind)

section Load

-- Reads the settings file.
variable (read : Text → Except Toml.Fault Toml.Table)

def document (d : Disk) (env : Environment) (path? : Option Path) :
    Except SettingsError Toml.Table :=
  match source? d env path? with
  | .error e     => .error (.file e)
  | .ok none     => .ok []
  | .ok (some p) =>
    match d.read p with
    | .error e => .error (.file e)
    | .ok s    =>
      match read s with
      | .ok ps                  => .ok ps
      | .error .malformed       => .error .malformed
      | .error (.longInteger n) => .error (.integer (.long n))

def loadWith (d : Disk) (env : Environment) (path? : Option Path) :
    Except SettingsError Settings := do
  let ps ← document read d env path?
  let out ← output ps
  let verbosity ← integer ((given env "MERULA_VERBOSITY" out "verbosity").getD (.integer 0))
  let base ← baseFilter <|
    (given env "MERULA_DEFAULT_FILTER" ps "default_filter").getD (.text "data".toList)
  let file? ← ((given env "MERULA_FILE" ps "default_file").map (file env)).getD (.ok none)
  let logLevel := (given env "MERULA_LOG_LEVEL" ps "log_level").getD (.text "WARNING".toList)
  return { verbosity, base, file?, logLevel }

end Load

def load : Disk → Environment → Option Path → Except SettingsError Settings :=
  loadWith Toml.ofText

end Settings
end MemoBase
