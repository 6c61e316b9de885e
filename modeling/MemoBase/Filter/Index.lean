namespace MemoBase

inductive IndexFilter
  | any
  | single (n : Int)
  | range (first last : Int)
  deriving DecidableEq

-- Both ends of a range belong to it.
def IndexFilter.check : IndexFilter → Int → Bool
  | any,              _ => true
  | single n,         i => i == n
  | range first last, i => first ≤ i && i ≤ last

end MemoBase
