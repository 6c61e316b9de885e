import MemoBase.Query.Basic

namespace MemoBase

inductive CommandError
  | query (e : QueryError)
  | noFilter (name : Text)
  | noQuery (name : Text)
  | badQuery (name : Text) (e : QueryError)
  | noTemplate (name : Text)
  deriving DecidableEq

def CommandError.message : CommandError → Text
  | query e         => e.message
  | noFilter name   => "could not find pre-defined filter '".toList ++ name ++ ['\x27']
  | noQuery name    => "pre-defined filter '".toList ++ name ++
      "' found, but it contains no \x60.mql\x60 node".toList
  | badQuery name e => "pre-defined filter '".toList ++ name ++ "' does not compile: ".toList ++
      e.message
  | noTemplate name => "template '".toList ++ name ++ "' not found".toList

namespace Memo

-- The first memo of a collection with the given title.
def find? (ms : List Memo) (collection title : Text) : Option Memo :=
  List.find? (fun m => m.collection = collection ∧ m.title = title) ms

end Memo

namespace MemoFilter

def filterCollection : Text :=
  "mr:filter".toList

def queryKey : Text :=
  "mql".toList

def named (ms : List Memo) (name : Text) : Except CommandError MemoFilter :=
  match Memo.find? ms filterCollection name with
  | none   => .error (.noFilter name)
  | some m =>
    match m.data.find? (·.key = queryKey) with
    | none   => .error (.noQuery name)
    | some n =>
      match ofQuery n.value.plain with
      | .ok f                    => .ok f
      | .error (.longNumeral ds) => .error (.query (.longNumeral ds))
      | .error e                 => .error (.badQuery name e)

-- An empty name and an empty query are as good as none.
def given (s? : Option Text) : Option Text :=
  s?.filter (· ≠ [])

def base (ms : List Memo) (b : BaseFilter) (name? : Option Text) : Except CommandError MemoFilter :=
  match given name? with
  | some name => named ms name
  | none      => .ok b.memoFilter

def build (ms : List Memo) (b : BaseFilter) (name? query? : Option Text) :
    Except CommandError MemoFilter := do
  let f ← base ms b name?
  match given query? with
  | none       => return f
  | some query => return f.and (← (ofQuery query).mapError .query)

end MemoFilter
end MemoBase
