namespace MemoBase

-- There are two to the power `fracBits` codes from a power of two to the next, `minExp` is the exponent
-- of the least positive number, and `top` is the code of infinity.
structure Format where
  fracBits : Nat
  minExp : Int
  top : Nat

namespace Format

def single : Format where
  fracBits := 23
  minExp := -149
  top := 0x7F800000

def double : Format where
  fracBits := 52
  minExp := -1074
  top := 0x7FF0000000000000

def binadeSize (F : Format) : Nat :=
  1 <<< F.fracBits

-- How often the spacing of the numbers around a code is doubled.
def level (F : Format) (code : Nat) : Nat :=
  code / F.binadeSize - 1

def spacing (F : Format) (level : Nat) : Rat :=
  (2 : Rat) ^ (F.minExp + level)

def exact (F : Format) (code : Nat) : Rat :=
  ((code - F.level code * F.binadeSize : Nat) : Rat) * F.spacing (F.level code)

end Format

-- The nearest integer, and the even one of two that are equally near.
def roundEven (q : Rat) : Int :=
  if q - q.floor < 1 / 2 then q.floor
  else if 1 / 2 < q - q.floor then q.floor + 1
  else q.floor + q.floor % 2

-- The exponent of the greatest power of two that is not above a positive number.
def binade (q : Rat) : Int :=
  let e : Int := q.num.natAbs.log2 - q.den.log2
  if (2 : Rat) ^ e ≤ q then e else e - 1

namespace Format

def levelOf (F : Format) (q : Rat) : Nat :=
  (binade q - F.fracBits - F.minExp).toNat

def nearest (F : Format) (q : Rat) : Nat :=
  if q ≤ 0 then 0
  else F.levelOf q * F.binadeSize + (roundEven (q / F.spacing (F.levelOf q))).toNat

end Format

-- A sign and a code. The codes count the magnitudes upwards from zero, and the last one is infinity.
inductive Binary (F : Format)
  | nan
  | num (neg : Bool) (code : Fin (F.top + 1))
  deriving DecidableEq

abbrev Single := Binary .single

abbrev Double := Binary .double

namespace Binary

variable {F : Format}

def zero (neg : Bool) : Binary F :=
  num neg ⟨0, Nat.succ_pos _⟩

def infinite (neg : Bool) : Binary F :=
  num neg ⟨F.top, Nat.lt_succ_self _⟩

-- The number nearest to a magnitude; what lies too far out is infinite.
def ofRat (neg : Bool) (q : Rat) : Binary F :=
  num neg ⟨min F.top (F.nearest q), Nat.lt_succ_of_le (Nat.min_le_left ..)⟩

def convert (G : Format) : Binary F → Binary G
  | nan          => nan
  | num neg code => if code.val = F.top then infinite neg else ofRat neg (F.exact code)

def isNan : Binary F → Bool
  | nan     => true
  | num _ _ => false

-- The integer that is left when the fraction is cut off.
def truncate? : Binary F → Option Int
  | nan          => none
  | num neg code =>
    if code.val = F.top then none
    else some (if neg then - (F.exact code).floor else (F.exact code).floor)

-- The order of the numbers; both zeros have the rank 0.
def rank : Binary F → Int
  | nan            => 0
  | num false code => code.val
  | num true code  => - code.val

def le (x y : Binary F) : Bool :=
  !x.isNan && !y.isNan && x.rank ≤ y.rank

def lt (x y : Binary F) : Bool :=
  !x.isNan && !y.isNan && x.rank < y.rank

-- Numerical equality: the zeros are equal, and NaN is equal to nothing.
def same (x y : Binary F) : Bool :=
  !x.isNan && !y.isNan && x.rank == y.rank

end Binary
end MemoBase
