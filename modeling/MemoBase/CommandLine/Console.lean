import MemoBase.Text.Basic

namespace MemoBase

namespace CommandLine

inductive Channel
  | output
  | messages
  deriving DecidableEq

-- A text that is printed, with a line feed after it.
structure Print where
  channel : Channel
  text : Text
  deriving DecidableEq

-- An action that prints one thing after the other and ends with a value or a failure. A failure takes
-- nothing back of what has been printed before it.
structure Console (ε α : Type) where
  prints : List Print
  ending : Except ε α

namespace Console

variable {ε δ α β : Type}

def pure (a : α) : Console ε α :=
  ⟨[], .ok a⟩

def fail (e : ε) : Console ε α :=
  ⟨[], .error e⟩

def bind (x : Console ε α) (f : α → Console ε β) : Console ε β :=
  match x.ending with
  | .ok a    => ⟨x.prints ++ (f a).prints, (f a).ending⟩
  | .error e => ⟨x.prints, .error e⟩

-- Goes on after a failure.
def rescue (x : Console ε α) (f : ε → Console δ α) : Console δ α :=
  match x.ending with
  | .ok a    => ⟨x.prints, .ok a⟩
  | .error e => ⟨x.prints ++ (f e).prints, (f e).ending⟩

instance : Monad (Console ε) where
  pure := Console.pure
  bind := Console.bind

def ofExcept (x : Except ε α) : Console ε α :=
  ⟨[], x⟩

def print (c : Channel) (s : Text) : Console ε Unit :=
  ⟨[⟨c, s⟩], .ok ()⟩

def printAll (c : Channel) : List Text → Console ε Unit
  | []      => Console.pure ()
  | s :: ss => do
    print c s
    printAll c ss

end Console
end CommandLine
end MemoBase
