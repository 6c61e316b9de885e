import MemoBase.Text.Basic

namespace MemoBase

inductive KeyFilter
  | any
  | equals (key : Text)
  | starts (head : Text)
  | startsNot (head : Text)
  | not (f : KeyFilter)
  deriving DecidableEq

def KeyFilter.check : KeyFilter → Text → Bool
  | any,            _   => true
  | equals k,       key => key == k
  | starts head,    key => head.isPrefixOf key
  | startsNot head, key => !head.isPrefixOf key
  | not f,          key => !f.check key

end MemoBase
