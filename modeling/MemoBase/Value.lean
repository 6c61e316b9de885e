import MemoBase.Number.Shortest

namespace MemoBase

inductive Value
  | text (s : Text)
  | block (s delim : Text)
  | integer (n : Int32)
  | number (x : Single)
  | bool (b : Bool)
  deriving DecidableEq

inductive ValueError
  | newline
  | outOfRange (n : Int)
  | unsupported (kind : Text)
  deriving DecidableEq

def ValueError.message : ValueError → Text
  | newline          => "Text cannot contain a newline, use MultiLineText".toList
  | outOfRange n     => "integer out of 32-bit range: ".toList ++ Text.ofInt n
  | unsupported kind => "cannot convert ".toList ++ kind ++ " to a Value".toList

inductive CoercionError
  | block
  | bool
  | numeral (e : NumeralError)
  deriving DecidableEq

def CoercionError.message : CoercionError → Text
  | block     => "MultiLineText cannot be used as a number".toList
  | bool      => "Bool cannot be used as a number".toList
  | numeral e => e.message

def Single.ofInt (n : Int) : Single :=
  .ofRat (n < 0) n.natAbs

namespace Value

def defaultDelim : Text :=
  "EOF".toList

-- A text with a newline becomes a block, and so does a text that is given a delimiter; the empty
-- delimiter stands for the default one.
def ofText (s : Text) (delim? : Option Text) : Value :=
  match delim? with
  | some delim => block s (if delim.isEmpty then defaultDelim else delim)
  | none       => if s.contains '\n' then block s defaultDelim else text s

def ofLine (s : Text) : Except ValueError Value :=
  if s.contains '\n' then .error .newline else .ok (text s)

def ofInt (n : Int) : Except ValueError Value :=
  if Int32.minValue.toInt ≤ n ∧ n ≤ Int32.maxValue.toInt then .ok (integer (Int32.ofInt n))
  else .error (.outOfRange n)

def display : Value → Text
  | text s        => s
  | block s delim => "<<".toList ++ delim ++ '\n' :: s ++ '\n' :: delim
  | integer n     => Text.ofInt n.toInt
  | number x      => x.text
  | bool b        => (if b then "true" else "false").toList

-- The display text, but of a block only the text inside.
def plain : Value → Text
  | block s _ => s
  | v         => v.display

def toSingle : Value → Except CoercionError Single
  | text s    => (Single.read s).mapError .numeral
  | block _ _ => .error .block
  | integer n => .ok (.ofInt n.toInt)
  | number x  => .ok x
  | bool _    => .error .bool

-- Kinds are told apart; numbers are compared numerically, so a NaN is the same as nothing.
def same : Value → Value → Bool
  | number x, number y => x.same y
  | v,        w        => v == w

end Value
end MemoBase
