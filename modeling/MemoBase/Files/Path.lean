import MemoBase.Text.Basic

namespace MemoBase

-- Empty parts and single dots are left out when a path is read; double dots stay.
structure Path where
  root : Text
  parts : List Text
  deriving DecidableEq

namespace Path

def rootOf : Text → Text
  | '/' :: '/' :: '/' :: _ => ['/']
  | '/' :: '/' :: _        => ['/', '/']
  | '/' :: _               => ['/']
  | _                      => []

def ofText (s : Text) : Path where
  root := rootOf s
  parts := (Text.segments ['/'] s).filter fun p => p ≠ [] ∧ p ≠ ['.']

def isAbsolute (p : Path) : Bool :=
  p.root ≠ []

def text (p : Path) : Text :=
  if p.root = [] ∧ p.parts = [] then ['.'] else p.root ++ Text.join ['/'] p.parts

def parent (p : Path) : Path :=
  { p with parts := p.parts.dropLast }

-- An absolute path stays what it is, and a relative one starts at the directory.
def join (dir p : Path) : Path :=
  if p.isAbsolute then p else { dir with parts := dir.parts ++ p.parts }

def up : Text := ['.', '.']

-- The path with the double dots worked out. There is nothing above the root.
def collapse (parts : List Text) : List Text :=
  parts.foldl (fun dirs p => if p = up then dirs.dropLast else dirs ++ [p]) []

def resolve (workingDir p : Path) : Path where
  root := ['/']
  parts := collapse (workingDir.join p).parts

def hasNul (p : Path) : Bool :=
  p.parts.any (·.contains '\x00')

end Path
end MemoBase
