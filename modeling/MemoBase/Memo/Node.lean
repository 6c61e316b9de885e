import MemoBase.Memo.Attrs
import MemoBase.Text.Blank
import MemoBase.Text.Word

namespace MemoBase

structure Node where
  key : Text
  value : Value
  attrs : Attrs
  deriving DecidableEq

namespace Node

def isKeyStart (c : Char) : Bool :=
  Text.isWord c && !Text.isDigit c

def isKeyChar (c : Char) : Bool :=
  Text.isWord c || c == ':' || c == '-'

-- A key is a letter or an underscore, then word characters, colons and hyphens.
def isKey : Text → Bool
  | []     => false
  | c :: s => isKeyStart c && s.all isKeyChar

-- The longest key at the beginning of a text, and what follows it.
def readKey? : Text → Option (Text × Text)
  | []     => none
  | c :: s =>
    if isKeyStart c then some (c :: s.takeWhile isKeyChar, s.dropWhile isKeyChar) else none

-- A text that looks like the opening of a block goes to a line of its own.
def line (head : Text) : Value → Text
  | .text s =>
    if "<<".toList.isPrefixOf s.trimLeft then head ++ '\n' :: s
    else Text.dropTrailing (· == ' ') (head ++ ' ' :: s)
  | v       => Text.dropTrailing (· == ' ') (head ++ ' ' :: v.display)

def write (mark : Text) (n : Node) : Text :=
  Text.joinLines (line (mark ++ n.key) n.value :: n.attrs.map fun a => line ('+' :: a.1) a.2)

def same (n m : Node) : Bool :=
  n.key == m.key && n.value.same m.value && n.attrs.same m.attrs

end Node
end MemoBase
