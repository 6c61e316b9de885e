import MemoBase.Text.Blank
import MemoBase.Text.Digit
import MemoBase.Text.Quoted

namespace MemoBase

inductive IntegerError
  | malformed (s : Text)
  | long (digits : Nat)
  deriving DecidableEq

namespace IntegerError

def longMessage (digits : Nat) : Text :=
  "Exceeds the limit (4300 digits) for integer string conversion: value has ".toList ++
    Text.ofNat digits ++ " digits; use sys.set_int_max_str_digits() to increase the limit".toList

-- A malformed numeral is shown up to a certain length.
def message : IntegerError → Text
  | malformed s => "invalid literal for int() with base 10: ".toList ++ s.quoted.take 200
  | long digits => longMessage digits

end IntegerError

namespace Integer

def maxDigits : Nat := 4300

-- The separators between fields and records are no blanks here.
def isPadding (c : Char) : Bool :=
  Text.isBlank c && !(0x1C ≤ c.toNat && c.toNat ≤ 0x1F)

def isDigitOrBar (c : Char) : Bool :=
  Text.isDigit c || c == '_'

def sign : Text → Bool × Text
  | '+' :: s => (false, s)
  | '-' :: s => (true, s)
  | s        => (false, s)

-- Blanks around, a sign, and digits of any script with single underscores between them.
def read (s : Text) : Except IntegerError Int :=
  let (neg, t) := sign (s.dropWhile isPadding)
  let (ds, rest) := t.cut isDigitOrBar
  let count := (ds.filter Text.isDigit).length
  if (Text.segments ['_'] ds).contains [] then .error (.malformed s)
  else if maxDigits < count then .error (.long count)
  else if rest.any (!isPadding ·) then .error (.malformed s)
  else .ok (if neg then - Text.natOfDigits ds else Text.natOfDigits ds)

end Integer
end MemoBase
