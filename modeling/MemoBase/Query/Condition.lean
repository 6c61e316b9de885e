import MemoBase.Filter.Memo
import MemoBase.Number.Integer
import MemoBase.Text.Blank

namespace MemoBase

inductive Operator
  | equals
  | contains
  | compare (c : Comparison)
  deriving DecidableEq

namespace Operator

def text : Operator → Text
  | equals      => ['=']
  | contains    => ['~']
  | compare .lt => ['<']
  | compare .le => ['<', '=']
  | compare .gt => ['>']
  | compare .ge => ['>', '=']

def read? : Text → Option (Operator × Text)
  | '<' :: '=' :: s => some (compare .le, s)
  | '>' :: '=' :: s => some (compare .ge, s)
  | '=' :: s        => some (equals, s)
  | '~' :: s        => some (contains, s)
  | '<' :: s        => some (compare .lt, s)
  | '>' :: s        => some (compare .gt, s)
  | _               => none

end Operator

namespace Query

inductive Fault
  | empty
  | noKey
  | malformedIndex
  | reversedRange
  | unclosedQuote
  | noOperand
  | unexpected (c : Char)
  | notNumber (op : Operator) (operand : Text)
  | longNumeral (digits : Nat)
  deriving DecidableEq

structure Stop where
  fault : Fault
  rest : Text
  deriving DecidableEq

abbrev Reader (α : Type) :=
  Text → Except Stop (α × Text)

def scope : Text → Scope × Text
  | '@' :: s => (.header, s)
  | '.' :: s => (.data, s)
  | s        => (.any, s)

def key : Reader Text := fun s =>
  match Node.readKey? s with
  | some r => .ok r
  | none   => .error ⟨.noKey, s⟩

-- A row of digits between blanks.
def numeral? (s : Text) : Option (Text × Text) :=
  let (ds, rest) := s.trimLeft.cut Text.isDigit
  if ds = [] then none else some (ds, Text.trimLeft rest)

-- The numerals between the brackets; the opening one is read already.
def bounds? (s : Text) : Option ((Text × Option Text) × Text) := do
  match ← numeral? s with
  | (first, ']' :: rest) => return ((first, none), rest)
  | (first, ':' :: rest) =>
    match ← numeral? rest with
    | (last, ']' :: rest) => return ((first, some last), rest)
    | _                   => none
  | _ => none

def number (ds : Text) : Except Fault Nat :=
  if Integer.maxDigits < ds.length then .error (.longNumeral ds.length) else .ok (Text.natOfDigits ds)

def bounds : Text × Option Text → Except Fault IndexFilter
  | (first, none)      => do return .single (← number first)
  | (first, some last) => do
    let first ← number first
    let last ← number last
    if last < first then throw .reversedRange else return .range first last

def index : Reader IndexFilter := fun s =>
  match s with
  | '[' :: t =>
    match bounds? t with
    | none           => .error ⟨.malformedIndex, s⟩
    | some (b, rest) =>
      match bounds b with
      | .ok f    => .ok (f, rest)
      | .error e => .error ⟨e, s⟩
  | _ => .ok (.any, s)

def isBare (c : Char) : Bool :=
  !Text.isBlank c && c != ',' && c != '\x27'

def operand : Reader Text := fun s =>
  match s with
  | '\x27' :: t =>
    match Text.cut (· != '\x27') t with
    | (_, [])     => .error ⟨.unclosedQuote, s⟩
    | (w, _ :: r) => .ok (w, r)
  | _ =>
    match s.cut isBare with
    | ([], _) => .error ⟨.noOperand, s⟩
    | (w, r)  => .ok (w, r)

def valueFilter (op : Operator) (w : Text) : Except Fault ValueFilter :=
  match op with
  | .equals    => .ok (.equals w)
  | .contains  => .ok (.contains w)
  | .compare c =>
    match Single.read w with
    | .ok x    => .ok (.compare c (x.convert .double))
    | .error _ => .error (.notNumber op w)

def test : Reader ValueFilter := fun s =>
  match Operator.read? s with
  | none         => .ok (.any, s)
  | some (op, t) =>
    match operand t.trimLeft with
    | .error e   => .error e
    | .ok (w, r) =>
      match valueFilter op w with
      | .ok f    => .ok (f, r)
      | .error e => .error ⟨e, t.trimLeft⟩

def condition : Reader NodeFilter := fun s =>
  let (scope, s) := scope s
  match key s with
  | .error e     => .error e
  | .ok (key, s) =>
    match index s with
    | .error e       => .error e
    | .ok (index, s) =>
      match test s.trimLeft with
      | .error e       => .error e
      | .ok (value, s) => .ok ({ scope, key := .equals key, index, value }, s)

end Query
end MemoBase
