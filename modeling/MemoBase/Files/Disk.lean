import MemoBase.Files.Path
import MemoBase.Text.Quoted
import MemoBase.Text.Utf8

namespace MemoBase

inductive FileFault
  | notFound
  | notDirectory
  | isDirectory
  | nameTooLong
  deriving DecidableEq

inductive FileError
  | fault (f : FileFault) (path : Path)
  | nul
  | notUtf8
  deriving DecidableEq

namespace FileFault

def number : FileFault → Nat
  | notFound     => 2
  | notDirectory => 20
  | isDirectory  => 21
  | nameTooLong  => 36

def reason : FileFault → Text
  | notFound     => "No such file or directory".toList
  | notDirectory => "Not a directory".toList
  | isDirectory  => "Is a directory".toList
  | nameTooLong  => "File name too long".toList

end FileFault

def FileError.message : FileError → Text
  | fault f path => "[Errno ".toList ++ Text.ofNat f.number ++ "] ".toList ++ f.reason ++
      ": ".toList ++ path.text.quoted
  | nul          => "embedded null byte".toList
  | notUtf8      => "the file is not UTF-8".toList

inductive Content
  | file (bytes : List UInt8)
  | dir
  deriving DecidableEq

-- Every entry is listed with the names on the way to it from the root.
structure Disk where
  workingDir : Path
  entries : List (List Text × Content)

namespace Disk

variable (d : Disk)

-- A directory exists if it is listed or if something below it is.
def find? (names : List Text) : Option Content :=
  if names = [] then some .dir
  else
    match d.entries.lookup names with
    | some c => some c
    | none   => if d.entries.any fun e => names.isPrefixOf e.1 then some .dir else none

def maxName : Nat := 255

def maxPath : Nat := 4095

-- Goes on from a directory or file that exists.
def walk (here : List Text) : List Text → Except FileFault (List Text)
  | []      => .ok here
  | p :: ps =>
    if d.find? here ≠ some .dir then .error .notDirectory
    else if p = Path.up then walk here.dropLast ps
    else if maxName < p.utf8.length then .error .nameTooLong
    else if d.find? (here ++ [p]) = none then .error .notFound
    else walk (here ++ [p]) ps

def locate (p : Path) : Except FileFault (List Text) :=
  if maxPath < p.text.utf8.length then .error .nameTooLong
  else d.walk [] (d.workingDir.join p).parts

-- A name that is too long is a fault, whatever else may be missing.
def exists? (p : Path) : Except FileError Bool :=
  if p.hasNul then .ok false
  else
    match d.locate p with
    | .ok _               => .ok true
    | .error .nameTooLong => .error (.fault .nameTooLong p)
    | .error _            => .ok false

def readBytes (p : Path) : Except FileFault (List UInt8) := do
  match d.find? (← d.locate p) with
  | some (.file bytes) => .ok bytes
  | some .dir          => .error .isDirectory
  | none               => .error .notFound

def read (p : Path) : Except FileError Text :=
  if p.hasNul then .error .nul
  else
    match d.readBytes p with
    | .error f   => .error (.fault f p)
    | .ok bytes  =>
      match Text.ofUtf8? bytes with
      | some s => .ok s
      | none   => .error .notUtf8

def resolve (p : Path) : Path :=
  Path.resolve d.workingDir p

end Disk
end MemoBase
