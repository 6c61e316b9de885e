namespace MemoBase

abbrev Text :=
  List Char

namespace Text

def holds (needle : Text) : Text → Bool
  | []     => needle.isEmpty
  | c :: s => needle.isPrefixOf (c :: s) || holds needle s

-- Puts a character in front of the first piece.
def push (c : Char) : List Text → List Text
  | []      => [[c]]
  | p :: ps => (c :: p) :: ps

def segments (sep : Text) (s : Text) : List Text :=
  go 0 s
where
  -- The number counts the characters of a separator that are still to be passed over.
  go : Nat → Text → List Text
    | _,     []     => [[]]
    | k + 1, _ :: s => go k s
    | 0,     c :: s =>
      if sep.isPrefixOf (c :: s) then [] :: go (sep.length - 1) s else push c (go 0 s)

def join (sep : Text) : List Text → Text
  | []           => []
  | [p]          => p
  | p :: q :: ps => p ++ sep ++ join sep (q :: ps)

def joinLines : List Text → Text :=
  join ['\n']

-- The longest part at the beginning that has a property throughout, and the rest.
def cut (p : Char → Bool) (s : Text) : Text × Text :=
  (s.takeWhile p, s.dropWhile p)

def dropTrailing (p : Char → Bool) (s : Text) : Text :=
  (s.reverse.dropWhile p).reverse

def ofNat (n : Nat) : Text :=
  (toString n).toList

def ofInt (n : Int) : Text :=
  if n < 0 then '-' :: ofNat n.natAbs else ofNat n.natAbs

end Text
end MemoBase
