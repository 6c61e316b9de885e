import MemoBase.Number.Binary
import MemoBase.Text.Digit
import MemoBase.Text.Quoted

namespace MemoBase

inductive NumeralError
  | notNumeral (s : Text)
  | foreignLetter (s : Text)
  deriving DecidableEq

def NumeralError.message : NumeralError → Text
  | notNumeral s    => "not a number: ".toList ++ s.quoted
  | foreignLetter s => "could not convert string to float: ".toList ++ s.quoted

-- A finite numeral denotes `digits * 10 ^ exp`, negated if `neg` holds.
inductive Numeral
  | nan
  | infinite (neg : Bool)
  | finite (neg : Bool) (digits : Nat) (exp : Int)
  deriving DecidableEq

namespace Numeral

def sign : Text → Bool × Text
  | '+' :: s => (false, s)
  | '-' :: s => (true, s)
  | s        => (false, s)

-- The letters of number words have either case. The dotted and the dotless variant of `i` are taken
-- for an `i` here, so that a word with one is refused for that letter.
def isForeign (c : Char) : Bool :=
  c == '\u0130' || c == '\u0131'

def foldLetter (c : Char) : Char :=
  if isForeign c then 'i' else c.toLower

def word? (neg : Bool) (s : Text) : Option Numeral :=
  let w := s.map foldLetter
  if w = "inf".toList ∨ w = "infinity".toList then some (infinite neg)
  else if w = "nan".toList then some nan
  else none

def exponent? : Text → Option Int
  | []     => some 0
  | c :: s =>
    let (neg, ds) := sign s
    if (c == 'e' || c == 'E') && !ds.isEmpty && ds.all Text.isDigit then
      some (if neg then - Text.natOfDigits ds else Text.natOfDigits ds)
    else none

-- The digits behind the point, and what follows them.
def fraction : Text → Text × Text
  | '.' :: s => Text.cut Text.isDigit s
  | s        => ([], s)

def finite? (neg : Bool) (s : Text) : Option Numeral :=
  let (whole, rest) := s.cut Text.isDigit
  let (frac, rest) := fraction rest
  if whole.isEmpty && frac.isEmpty then none
  else (exponent? rest).map fun e => finite neg (Text.natOfDigits (whole ++ frac)) (e - frac.length)

def read (s : Text) : Except NumeralError Numeral :=
  let (neg, t) := sign s
  match word? neg t, finite? neg t with
  | some n, _    => if t.any isForeign then .error (.foreignLetter s) else .ok n
  | none, some n => .ok n
  | none, none   => .error (.notNumeral s)

-- A numeral that is out of range whatever its digits are is not worked out.
def toDouble : Numeral → Double
  | nan                => .nan
  | infinite neg       => .infinite neg
  | finite neg digits exp =>
    if digits = 0 ∨ digits.log2 + 3 * exp < -1100 then .zero neg
    else if 1100 < 3 * exp then .infinite neg
    else .ofRat neg (digits * (10 : Rat) ^ exp)

end Numeral

def Single.read (s : Text) : Except NumeralError Single :=
  (Numeral.read s).map fun n => n.toDouble.convert .single

end MemoBase
