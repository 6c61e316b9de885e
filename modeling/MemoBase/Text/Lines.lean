import MemoBase.Text.Basic

namespace MemoBase.Text

def isBreak (c : Char) : Bool :=
  [0x0A, 0x0B, 0x0C, 0x0D, 0x1C, 0x1D, 0x1E, 0x85, 0x2028, 0x2029].contains c.toNat

-- A carriage return whose line feed is still to come.
def leadsFeed (c : Char) (s : Text) : Bool :=
  c == '\r' && s.head? == some '\n'

-- A break at the end of the text opens no further line.
def lines : Text → List Text
  | []     => []
  | c :: s =>
    if leadsFeed c s then lines s
    else if isBreak c then [] :: lines s
    else push c (lines s)

-- Carriage returns as line feeds.
def unifyBreaks : Text → Text
  | []     => []
  | c :: s =>
    if leadsFeed c s then unifyBreaks s
    else (if c = '\r' then '\n' else c) :: unifyBreaks s

end MemoBase.Text
