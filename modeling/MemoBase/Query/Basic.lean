import MemoBase.Query.Condition

namespace MemoBase

inductive QueryError
  | malformed (fault : Query.Fault) (query : Text) (position : Nat)
  | longNumeral (digits : Nat)
  deriving DecidableEq

namespace Query

section Lengths

theorem length_dropWhile_le (p : Char → Bool) (s : Text) : (s.dropWhile p).length ≤ s.length :=
  (List.dropWhile_suffix p).length_le

theorem length_trimLeft_le (s : Text) : s.trimLeft.length ≤ s.length :=
  length_dropWhile_le ..

theorem length_cut_le (p : Char → Bool) (s : Text) : (s.cut p).2.length ≤ s.length :=
  length_dropWhile_le ..

theorem length_scope_le (s : Text) : (scope s).2.length ≤ s.length := by
  unfold scope
  split <;> simp

theorem length_key_lt {s r : Text} {k : Text} (h : key s = .ok (k, r)) : r.length < s.length := by
  unfold key Node.readKey? at h
  cases s with
  | nil => simp at h
  | cons c s =>
    by_cases hc : Node.isKeyStart c <;> simp [hc] at h
    rw [← h.2]
    exact Nat.lt_succ_of_le (length_dropWhile_le ..)

theorem length_numeral_le {s ds r : Text} (h : numeral? s = some (ds, r)) :
    r.length ≤ s.length := by
  unfold numeral? at h
  have h₁ := length_cut_le Text.isDigit s.trimLeft
  revert h h₁
  generalize s.trimLeft.cut Text.isDigit = p
  intro h h₁
  obtain ⟨w, t⟩ := p
  by_cases hw : w = [] <;> simp [hw] at h
  rw [← h.2]
  exact Nat.le_trans (length_trimLeft_le _) (Nat.le_trans h₁ (length_trimLeft_le _))

theorem length_bounds_le {s r : Text} {b} (h : bounds? s = some (b, r)) : r.length ≤ s.length := by
  unfold bounds? at h
  simp only [Option.bind_eq_bind, Option.bind_eq_some_iff] at h
  obtain ⟨⟨first, t⟩, hf, h⟩ := h
  have hf := length_numeral_le hf
  split at h
  · next heq =>
    cases heq
    simp at h
    simp only [List.length_cons] at hf
    rw [← h.2]
    omega
  · next heq =>
    cases heq
    simp only [Option.bind_eq_some_iff] at h
    obtain ⟨⟨last, t⟩, hl, h⟩ := h
    have hl := length_numeral_le hl
    split at h
    · next heq =>
      cases heq
      simp at h
      simp only [List.length_cons] at hf hl
      rw [← h.2]
      omega
    · simp at h
  · simp at h

theorem length_index_le {s r : Text} {f} (h : index s = .ok (f, r)) : r.length ≤ s.length := by
  unfold index at h
  split at h
  · next t =>
    split at h
    · simp at h
    · next b rest hb =>
      have := length_bounds_le hb
      split at h <;> simp at h
      rw [← h.2, List.length_cons]
      omega
  · simp at h
    simp [h.2]

theorem length_operand_le {s w r : Text} (h : operand s = .ok (w, r)) : r.length ≤ s.length := by
  unfold operand at h
  split at h
  · next t =>
    have := length_cut_le (· != '\x27') t
    split at h
    · simp at h
    · next heq =>
      simp at h
      rw [heq] at this
      simp only [List.length_cons] at this
      rw [← h.2, List.length_cons]
      omega
  · have := length_cut_le isBare s
    split at h
    · simp at h
    · next heq =>
      simp at h
      rw [heq] at this
      rw [← h.2]
      exact this

theorem length_operator_le {s r : Text} {op} (h : Operator.read? s = some (op, r)) :
    r.length ≤ s.length := by
  unfold Operator.read? at h
  split at h <;> simp at h <;> rw [← h.2] <;> simp <;> omega

theorem length_test_le {s r : Text} {f} (h : test s = .ok (f, r)) : r.length ≤ s.length := by
  unfold test at h
  split at h
  · simp at h
    simp [h.2]
  · next op t hop =>
    split at h
    · simp at h
    · next w u hu =>
      have h₁ := length_operator_le hop
      have h₂ := length_operand_le hu
      have h₃ := length_trimLeft_le t
      split at h <;> simp at h
      rw [← h.2]
      omega

theorem length_condition_lt {s r : Text} {f} (h : condition s = .ok (f, r)) :
    r.length < s.length := by
  unfold condition at h
  have h₁ := length_scope_le s
  dsimp only at h
  split at h
  · simp at h
  · next hk =>
    split at h
    · simp at h
    · next t hi =>
      split at h
      · simp at h
      · next ht =>
        simp at h
        have h₂ := length_key_lt hk
        have h₃ := length_index_le hi
        have h₄ := length_trimLeft_le t
        have h₅ := length_test_le ht
        rw [← h.2]
        omega

end Lengths

def conditions (s : Text) : Except Stop (List NodeFilter) :=
  match _h : condition s with
  | .error e   => .error e
  | .ok (f, r) =>
    match _hr : r.trimLeft with
    | []       => .ok [f]
    | ',' :: t => (conditions (Text.trimLeft t)).map (f :: ·)
    | c :: t   => .error ⟨.unexpected c, c :: t⟩
termination_by s.length
decreasing_by
  have h₁ := length_condition_lt _h
  have h₂ := length_trimLeft_le r
  have h₃ := length_trimLeft_le t
  rw [_hr, List.length_cons] at h₂
  omega

def read (s : Text) : Except Stop (List NodeFilter) :=
  if s.trimLeft = [] then .error ⟨.empty, []⟩ else conditions s.trimLeft

def Stop.error (query : Text) (e : Stop) : QueryError :=
  match e.fault with
  | .longNumeral digits => .longNumeral digits
  | fault               => .malformed fault query (query.length - e.rest.length)

def Fault.message : Fault → Text
  | empty               => "empty query".toList
  | noKey               => "expected a key".toList
  | malformedIndex      => "malformed index, expected [n] or [n:m]".toList
  | reversedRange       => "index range start is greater than its end".toList
  | unclosedQuote       => "unterminated quoted value".toList
  | noOperand           => "expected a value".toList
  | unexpected c        => "unexpected ".toList ++ Text.quoted [c] ++ ", expected ','".toList
  | notNumber op w      => "operator '".toList ++ op.text ++ "' needs a number, got ".toList ++
      w.quoted
  | longNumeral digits  => IntegerError.longMessage digits

end Query

-- The query follows the message, with a mark below the position.
def QueryError.message : QueryError → Text
  | malformed fault query position =>
    fault.message ++ " at position ".toList ++ Text.ofNat position ++ "\n  ".toList ++ query ++
      "\n  ".toList ++ List.replicate position ' ' ++ ['^']
  | longNumeral digits => (Query.Fault.longNumeral digits).message

def MemoFilter.ofQuery (query : Text) : Except QueryError MemoFilter :=
  match Query.read query with
  | .ok fs   => .ok ⟨fs⟩
  | .error e => .error (e.error query)

end MemoBase
