import MemoBase.Number.Integer
import MemoBase.Number.Numeral
import MemoBase.Toml.Reader

namespace MemoBase

namespace Toml

def words : List (Text × Value) :=
  [("true".toList, .bool true), ("false".toList, .bool false),
    ("inf".toList, .float (.infinite false)), ("+inf".toList, .float (.infinite false)),
    ("-inf".toList, .float (.infinite true)), ("nan".toList, .float .nan),
    ("+nan".toList, .float .nan), ("-nan".toList, .float .nan)]

def word? (s : Text) : Option (Value × Text) :=
  words.findSome? fun (w, v) => if w.isPrefixOf s then some (v, s.drop w.length) else none

-- A number of so many digits within its bounds.
def field? (width least most : Nat) (s : Text) : Option (Nat × Text) :=
  let ds := s.take width
  let n := numberOf 10 ds
  if ds.length = width ∧ ds.all Char.isDigit ∧ least ≤ n ∧ n ≤ most then some (n, s.drop width)
  else none

def after? (c : Char) (s : Text) : Option Text :=
  if s.head? = some c then some s.tail else none

def clock? (s : Text) : Option Text := do
  let (_, s) ← field? 2 0 23 s
  let (_, s) ← field? 2 0 59 (← after? ':' s)
  return s

-- Seconds may have a fraction.
def time? (s : Text) : Option Text := do
  let (_, s) ← field? 2 0 59 (← after? ':' (← clock? s))
  match s with
  | '.' :: c :: t => return if c.isDigit then t.dropWhile Char.isDigit else s
  | _             => return s

def skipOffset : Text → Text
  | []     => []
  | c :: s =>
    if c = 'Z' ∨ c = 'z' then s
    else if c = '+' ∨ c = '-' then (clock? s).getD (c :: s)
    else c :: s

def isLeap (year : Nat) : Bool :=
  year % 4 = 0 && (year % 100 ≠ 0 || year % 400 = 0)

def daysIn (year month : Nat) : Nat :=
  if month = 2 then if isLeap year then 29 else 28
  else if month = 4 ∨ month = 6 ∨ month = 9 ∨ month = 11 then 30
  else 31

-- Tells whether there is such a day. Years are counted from one.
def date? (s : Text) : Option (Bool × Text) := do
  let (year, s) ← field? 4 0 9999 s
  let (month, s) ← field? 2 1 12 (← after? '-' s)
  let (day, s) ← field? 2 1 31 (← after? '-' s)
  return (year ≠ 0 && day ≤ daysIn year month, s)

-- What follows a date may be a time.
def moment? (s : Text) : Option (Except Fault (Value × Text)) :=
  match date? s with
  | none               => (time? s).map fun rest => .ok (.moment .time, rest)
  | some (false, _)    => some (.error .malformed)
  | some (true, rest)  =>
    match if rest.head?.any "Tt ".toList.contains then time? rest.tail else none with
    | some rest => some (.ok (.moment .dateTime, skipOffset rest))
    | none      => some (.ok (.moment .date, rest))

def moreDigits (base : Nat) : Text → Text × Text
  | []            => ([], [])
  | '_' :: c :: s =>
    if isDigitOf base c then
      let (ds, rest) := moreDigits base s
      (c :: ds, rest)
    else ([], '_' :: c :: s)
  | c :: s        =>
    if isDigitOf base c then
      let (ds, rest) := moreDigits base s
      (c :: ds, rest)
    else ([], c :: s)

-- Digits with single bars between them, and what follows.
def digits (base : Nat) (s : Text) : Text × Text :=
  if s.head?.any (isDigitOf base) then moreDigits base s else ([], s)

-- The bases that are not ten, with the letters that stand for them behind a zero.
def bases : List (Char × Nat) :=
  [('x', 16), ('o', 8), ('b', 2)]

def based? : Text → Option (Nat × Text)
  | '0' :: l :: s => do
    let base ← bases.lookup l
    let (ds, rest) := digits base s
    if ds = [] then none else some (numberOf base ds, rest)
  | _ => none

-- A leading zero stands alone.
def whole (s : Text) : Text × Text :=
  if s.head? = some '0' then (['0'], s.tail) else digits 10 s

def fraction (s : Text) : Text × Text :=
  match s with
  | '.' :: t =>
    let (ds, rest) := digits 10 t
    if ds = [] then ([], s) else (ds, rest)
  | _        => ([], s)

def exponent (s : Text) : Option Int × Text :=
  match s with
  | []     => (none, [])
  | c :: t =>
    let (neg, t) := Numeral.sign t
    let (ds, rest) := digits 10 t
    if (c ≠ 'e' ∧ c ≠ 'E') ∨ ds = [] then (none, s)
    else (some (if neg then - numberOf 10 ds else numberOf 10 ds), rest)

-- Only the digits of integers are limited in number.
def decimal (neg : Bool) : Reader Value := fun s =>
  match whole s with
  | ([], _)    => .error .malformed
  | (ds, rest) =>
    let (frac, rest) := fraction rest
    let (exp?, rest) := exponent rest
    if frac ≠ [] ∨ exp? ≠ none then
      let x := Numeral.finite neg (numberOf 10 (ds ++ frac)) (exp?.getD 0 - frac.length)
      .ok (.float x.toDouble, rest)
    else if Integer.maxDigits < ds.length then .error (.longInteger ds.length)
    else .ok (.integer (if neg then - numberOf 10 ds else numberOf 10 ds), rest)

-- With a sign there are decimal digits only.
def number : Reader Value := fun s =>
  match based? s with
  | some (n, rest) => .ok (.integer n, rest)
  | none           =>
    let (neg, s) := Numeral.sign s
    decimal neg s

def plain : Reader Value := fun s =>
  match word? s with
  | some r => .ok r
  | none   => (moment? s).getD (number s)

end Toml
end MemoBase
