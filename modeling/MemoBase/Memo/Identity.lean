import MemoBase.Digest.Sha256
import MemoBase.Memo.Basic
import MemoBase.Text.Utf8

namespace MemoBase.Memo

-- Memos of one collection and title share their identity.
def identity (m : Memo) : Text :=
  let bytes := Sha256.digest (m.collection.utf8 ++ 0 :: m.title.utf8)
  (bytes.take 8).flatMap fun b => Text.hexDigits 2 b.toNat

end MemoBase.Memo
