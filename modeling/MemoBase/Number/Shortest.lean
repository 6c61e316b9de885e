import MemoBase.Number.Numeral

namespace MemoBase

-- The number of decimal digits, and 0 for zero.
def digitCount (n : Nat) : Nat :=
  if n = 0 then 0 else digitCount (n / 10) + 1
termination_by n
decreasing_by omega

-- The exponent of the greatest power of ten that is not above a positive number.
def decade (q : Rat) : Int :=
  if 1 ≤ q then digitCount q.floor.toNat - 1 else - digitCount (q⁻¹.ceil - 1).toNat

-- Denotes `digits * 10 ^ exp`.
structure Decimal where
  digits : Nat
  exp : Int
  deriving DecidableEq

namespace Decimal

def exact (d : Decimal) : Rat :=
  d.digits * (10 : Rat) ^ d.exp

-- The decimal of `n + 1` significant digits next to a positive number.
def nearest (n : Nat) (q : Rat) : Decimal :=
  let exp := decade q - n
  ⟨(roundEven (q / (10 : Rat) ^ exp)).toNat, exp⟩

-- Drops the zeros at the end of the fraction.
def strip (d : Decimal) : Decimal :=
  if d.digits % 10 = 0 ∧ d.exp < 0 then strip ⟨d.digits / 10, d.exp + 1⟩ else d
termination_by (-d.exp).toNat
decreasing_by all_goals omega

def padded (width n : Nat) : Text :=
  let ds := Text.ofNat n
  List.replicate (width - ds.length) '0' ++ ds

def text (d : Decimal) : Text :=
  let d := d.strip
  if d.exp < 0 then
    let width := d.exp.natAbs
    Text.ofNat (d.digits / Nat.pow 10 width) ++ '.' :: padded width (d.digits % Nat.pow 10 width)
  else
    Text.ofNat (d.digits * Nat.pow 10 d.exp.toNat)

def toSingle (d : Decimal) : Single :=
  (Binary.ofRat false d.exact : Double).convert .single

end Decimal

namespace Binary

variable {F : Format}

-- Whether a single has the given magnitude.
def hasMagnitude (q : Rat) : Binary F → Bool
  | nan        => false
  | num _ code => code.val ≠ F.top ∧ F.exact code = q

-- As few significant digits as read back as the same single, at most nine.
def magnitudeText (q : Rat) : Text :=
  if q.den = 1 ∧ q < 0x1000000 then Text.ofNat q.num.natAbs
  else
    let n := (List.range 8).find? fun n => (Decimal.nearest n q).toSingle.hasMagnitude q
    (Decimal.nearest (n.getD 8) q).text

def text : Binary F → Text
  | nan          => "NaN".toList
  | num neg code =>
    let s := if code.val = F.top then "inf".toList else magnitudeText (F.exact code)
    if neg then '-' :: s else s

end Binary
end MemoBase
