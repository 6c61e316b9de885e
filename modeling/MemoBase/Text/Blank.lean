import MemoBase.Text.Basic
import MemoBase.Text.Ranges

namespace MemoBase.Text

def blankRanges : CharRanges :=
  [(0x09, 0x0D), (0x1C, 0x20), (0x85, 0x85), (0xA0, 0xA0), (0x1680, 0x1680), (0x2000, 0x200A),
   (0x2028, 0x2029), (0x202F, 0x202F), (0x205F, 0x205F), (0x3000, 0x3000)]

def isBlank (c : Char) : Bool :=
  blankRanges.contains c

def trimLeft (s : Text) : Text :=
  s.dropWhile isBlank

def trimRight (s : Text) : Text :=
  dropTrailing isBlank s

def trim (s : Text) : Text :=
  trimRight (trimLeft s)

end MemoBase.Text
