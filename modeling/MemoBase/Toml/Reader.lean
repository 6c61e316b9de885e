import MemoBase.Toml.Value

namespace MemoBase

namespace Toml

-- A reader takes what it reads from the front of a text.
abbrev Reader (α : Type) :=
  Text → Except Fault (α × Text)

def isSpace (c : Char) : Bool :=
  c == ' ' || c == '\t'

def isBareKey (c : Char) : Bool :=
  c.isAlphanum || c == '-' || c == '_'

-- Control characters other than the tab stand nowhere.
def isControl (c : Char) : Bool :=
  (c.toNat < 0x20 && c != '\t') || c.toNat == 0x7F

-- Line feeds stand in texts of several lines.
def isForbidden (lines : Bool) (c : Char) : Bool :=
  isControl c && !(lines && c == '\n')

def skip (s : Text) : Text :=
  s.dropWhile isSpace

-- Passes over blanks, line ends and comments.
def skipLines (inComment : Bool) : Text → Except Fault Text
  | []     => .ok []
  | c :: s =>
    if c = '\n' then skipLines false s
    else if inComment then if isControl c then .error .malformed else skipLines true s
    else if c = '#' then skipLines true s
    else if isSpace c then skipLines false s
    else .ok (c :: s)

-- Passes over a comment at the end of a line.
def skipComment : Text → Except Fault Text
  | '#' :: s =>
    let (comment, rest) := Text.cut (· != '\n') s
    if comment.any isControl then .error .malformed else .ok rest
  | s        => .ok s

def digitValue (c : Char) : Nat :=
  if c.isDigit then c.toNat - '0'.toNat else c.toLower.toNat - 'a'.toNat + 10

def isDigitOf (base : Nat) (c : Char) : Bool :=
  c.isAlphanum && digitValue c < base

def numberOf (base : Nat) (ds : Text) : Nat :=
  ds.foldl (fun n c => base * n + digitValue c) 0

def escapes : List (Char × Char) :=
  [('b', '\x08'), ('t', '\t'), ('n', '\n'), ('f', '\x0C'), ('r', '\r'), ('"', '"'), ('\\', '\\')]

-- The character with a number of so many hexadecimal digits.
def scalar? (width : Nat) (s : Text) : Option Char :=
  let ds := s.take width
  let n := numberOf 16 ds
  if ds.length = width ∧ ds.all (isDigitOf 16) ∧ n.isValidChar then some (Char.ofNat n) else none

-- The character of an escape behind the backslash, and the length of the escape.
def escape? : Text → Option (Char × Nat)
  | []     => none
  | c :: s =>
    if c = 'u' then (scalar? 4 s).map (·, 5)
    else if c = 'U' then (scalar? 8 s).map (·, 9)
    else (escapes.lookup c).map (·, 1)

-- The length of the blanks behind a backslash that ends a line.
def gap? (s : Text) : Option Nat :=
  let blanks := s.takeWhile fun c => isSpace c || c == '\n'
  if blanks.contains '\n' then some blanks.length else none

def push (c : Char) (r : Except Fault (Text × Text)) : Except Fault (Text × Text) :=
  r.map fun (t, rest) => (c :: t, rest)

-- A text with escapes up to its closing mark. The number counts the characters that are still to be
-- passed over.
def basic (lines : Bool) : Nat → Reader Text
  | _,     []     => .error .malformed
  | k + 1, _ :: s => basic lines k s
  | 0,     c :: s =>
    if c = '"' then
      if !lines then .ok ([], s)
      else if ['"', '"'].isPrefixOf s then .ok ([], s.drop 2)
      else push c (basic lines 0 s)
    else if c = '\\' then
      match if lines then gap? s else none, escape? s with
      | some k, _         => basic lines k s
      | none, some (e, k) => push e (basic lines k s)
      | none, none        => .error .malformed
    else if isForbidden lines c then .error .malformed
    else push c (basic lines 0 s)

-- The part in front of a mark, and what follows the mark.
def cutAt? (mark : Text) : Text → Option (Text × Text)
  | []     => none
  | c :: s =>
    if mark.isPrefixOf (c :: s) then some ([], (c :: s).drop mark.length)
    else (cutAt? mark s).map fun (t, rest) => (c :: t, rest)

def literal (lines : Bool) (mark : Text) : Reader Text := fun s =>
  match cutAt? mark s with
  | none           => .error .malformed
  | some (t, rest) => if t.any (isForbidden lines) then .error .malformed else .ok (t, rest)

def quotedLine (mark : Char) : Reader Text :=
  if mark = '"' then basic false 0 else literal false [mark]

-- A line feed at the beginning is left out. One or two marks more than needed at the end belong to
-- the text.
def quotedLines (mark : Char) : Reader Text := fun s => do
  let s := if s.head? = some '\n' then s.tail else s
  let (t, rest) ← if mark = '"' then basic true 0 s else literal true [mark, mark, mark] s
  let more := (rest.take 2).takeWhile (· == mark)
  return (t ++ more, rest.drop more.length)

-- A text behind its first mark. Two marks more open a text of several lines.
def quoted (mark : Char) : Reader Text := fun s =>
  if [mark, mark].isPrefixOf s then quotedLines mark (s.drop 2) else quotedLine mark s

def keyPart : Reader Text
  | []     => .error .malformed
  | c :: s =>
    if c = '"' ∨ c = '\x27' then quotedLine c s
    else if isBareKey c then .ok (Text.cut isBareKey (c :: s))
    else .error .malformed

-- The number bounds the parts.
def key : Nat → Reader Key
  | 0,     _ => .error .malformed
  | n + 1, s => do
    let (part, rest) ← keyPart s
    match skip rest with
    | '.' :: rest => (key n (skip rest)).map fun (parts, rest) => (part :: parts, rest)
    | rest        => .ok ([part], rest)

end Toml
end MemoBase
