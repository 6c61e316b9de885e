namespace MemoBase.Text

abbrev CharRanges :=
  List (Nat × Nat)

namespace CharRanges

def contains (rs : CharRanges) (c : Char) : Bool :=
  rs.any fun r => r.1 ≤ c.toNat && c.toNat ≤ r.2

theorem contains_iff {rs : CharRanges} {c : Char} :
    rs.contains c ↔ ∃ r ∈ rs, r.1 ≤ c.toNat ∧ c.toNat ≤ r.2 := by
  simp [contains]

end CharRanges
end MemoBase.Text
