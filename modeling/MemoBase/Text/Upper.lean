import MemoBase.Text.Basic

namespace MemoBase.Text

-- Letters outside ASCII whose upper case is in it.
def upperIntoAscii : List (Char × Text) :=
  [('\u00DF', "SS".toList), ('\u0131', "I".toList), ('\u017F', "S".toList),
   ('\uFB00', "FF".toList), ('\uFB01', "FI".toList), ('\uFB02', "FL".toList),
   ('\uFB03', "FFI".toList), ('\uFB04', "FFL".toList), ('\uFB05', "ST".toList),
   ('\uFB06', "ST".toList)]

-- The upper case of a text as far as it is in ASCII; other characters stay as they are.
def upperAscii (s : Text) : Text :=
  s.flatMap fun c => (upperIntoAscii.lookup c).getD [c.toUpper]

end MemoBase.Text
