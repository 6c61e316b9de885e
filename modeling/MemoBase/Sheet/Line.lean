import MemoBase.Memo.Node

namespace MemoBase

inductive Mark
  | header
  | data
  | attr
  deriving DecidableEq

def Mark.ofChar? : Char → Option Mark
  | '@' => some header
  | '.' => some data
  | '+' => some attr
  | _   => none

inductive Opening
  | inline (s : Text)
  | block (delim : Text)
  deriving DecidableEq

-- The key and the separator are as long as they can be. The rest opens a delimited block, or it is the
-- beginning of a value that may go on in the lines below.
structure Line where
  mark : Mark
  key : Text
  sep : Text
  opening : Opening
  deriving DecidableEq

namespace Line

def isSeparator (c : Char) : Bool :=
  !Text.isWord c && !Text.isBlank c && c != '<'

def delim? : Text → Option Text
  | '<' :: '<' :: s =>
    let delim := Text.trim s
    if delim ≠ [] ∧ delim.all (!Text.isBlank ·) then some delim else none
  | _ => none

def opening? (rest : Text) : Option Opening :=
  match delim? rest.trimLeft with
  | some delim => some (.block delim)
  | none       =>
    match rest with
    | []     => some (.inline [])
    | c :: _ => if Text.isBlank c then some (.inline rest.trim) else none

def read? : Text → Option Line
  | []     => none
  | c :: s => do
    let mark ← Mark.ofChar? c
    let (key, rest) ← Node.readKey? s
    let opening ← opening? (rest.dropWhile isSeparator)
    return { mark, key, sep := rest.takeWhile isSeparator, opening }

-- Only data nodes are split into several values.
def WellFormed (l : Line) : Prop :=
  l.sep = [] ∨ l.mark = .data

instance (l : Line) : Decidable l.WellFormed :=
  inferInstanceAs (Decidable (_ ∨ _))

end Line
end MemoBase
