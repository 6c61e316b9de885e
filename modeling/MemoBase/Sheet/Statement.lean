import MemoBase.Sheet.Line
import MemoBase.Text.Lines

namespace MemoBase

inductive Statement
  | header (key : Text) (title : Value)
  | data (key : Text) (values : List Value)
  | attr (key : Text) (value : Value)
  deriving DecidableEq

-- A statement whose value may still grow.
structure Draft where
  line : Line
  parts : List Text
  deriving DecidableEq

namespace Draft

def ofLine (l : Line) : Draft where
  line := l
  parts :=
    match l.opening with
    | .inline [] => []
    | .inline s  => [s]
    | .block _   => []

def add (d : Draft) (part : Text) : Draft :=
  { d with parts := d.parts ++ [part] }

def delim? (d : Draft) : Option Text :=
  match d.line.opening with
  | .block delim => some delim
  | .inline _    => none

def text (d : Draft) : Text :=
  (Text.joinLines d.parts).trim

def value (d : Draft) : Value :=
  match d.delim? with
  | some delim => .block d.text delim
  | none       => .ofText d.text none

-- The values of a line with a separator. A bar stands for the line breaks.
def values (d : Draft) : List Value :=
  let sep := if d.line.sep = ['|'] then ['\n'] else d.line.sep
  ((Text.segments sep d.text).map Text.trim).filter (· ≠ []) |>.map (.ofText · none)

def finish (d : Draft) : Statement :=
  match d.line.mark with
  | .header => .header d.line.key d.value
  | .attr   => .attr d.line.key d.value
  | .data   => .data d.line.key (if d.line.sep = [] then [d.value] else d.values)

end Draft

namespace Statement

def isToken (c : Char) : Bool :=
  c == '@' || c == '.' || c == '+' || c == '#'

def opened? (line : Text) : Option Draft :=
  (Line.read? line).bind fun l => if l.WellFormed then some (.ofLine l) else none

def continues (line : Text) : Bool :=
  match line with
  | []     => false
  | c :: _ => !isToken c

-- The line that comes next either goes to the draft or ends it.
def step (d? : Option Draft) (raw : Text) : Option Draft × List Statement :=
  match d? with
  | none   => (opened? raw.trim, [])
  | some d =>
    match d.delim? with
    | some delim => if raw.trimRight = delim then (none, [d.finish]) else (some (d.add raw), [])
    | none       =>
      if continues raw.trim then (some (d.add raw.trim), []) else (opened? raw.trim, [d.finish])

def ofLines (d? : Option Draft) : List Text → List Statement
  | []        => (d?.map Draft.finish).toList
  | raw :: ls => (step d? raw).2 ++ ofLines (step d? raw).1 ls

def ofText (s : Text) : List Statement :=
  ofLines none s.lines

end Statement
end MemoBase
