import MemoBase.Command.Lookup

namespace MemoBase

namespace Template

inductive Piece
  | char (c : Char)
  | place (key : Text)
  deriving DecidableEq

-- The key of a place that starts with the given character, and what follows the closing brace.
def place? (c : Char) (s : Text) : Option (Text × Text) :=
  match Text.cut (fun c => c != '\x7d' && c != '\n') s with
  | (key, '\x7d' :: rest) => if c = '\x7b' then some (key, rest) else none
  | _                     => none

theorem length_place_lt {c : Char} {s key rest : Text} (h : place? c s = some (key, rest)) :
    rest.length < s.length := by
  unfold place? at h
  split at h
  · next heq =>
    have := (List.dropWhile_suffix (fun c => c != '\x7d' && c != '\n') (l := s)).length_le
    simp [Text.cut] at h heq
    rw [heq.2, List.length_cons] at this
    rw [← h.2.2]
    omega
  · simp at h

def pieces : Text → List Piece
  | []     => []
  | c :: s =>
    match _h : place? c s with
    | some (key, rest) => .place key :: pieces rest
    | none             => .char c :: pieces s
termination_by s => s.length
decreasing_by
  · exact Nat.lt_succ_of_lt (length_place_lt _h)
  · exact Nat.lt_succ_self _

def Piece.fill (m : Memo) : Piece → Text
  | char c    => [c]
  | place key =>
    match m.get? key with
    | some n => n.value.plain
    | none   => []

-- Values are put in as they are and not looked at again.
def render (s : Text) (m : Memo) : Text :=
  (pieces s).flatMap (Piece.fill m)

def collection : Text :=
  "mr:template".toList

-- The parts of a template memo that are there, with the body once for every memo.
def document (ms : List Memo) (name : Text) (f : MemoFilter) : Except CommandError Text :=
  match Memo.find? ms collection name with
  | none   => .error (.noTemplate name)
  | some t =>
    let part (key : String) := (t.get? key.toList).map (·.value.plain)
    let body := ((part "body").map fun s => (f.filter ms).map (render s)).getD []
    .ok (Text.joinLines ((part "header").toList ++ body ++ (part "footer").toList))

end Template
end MemoBase
