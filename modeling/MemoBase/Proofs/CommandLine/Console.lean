import MemoBase.CommandLine.Run

namespace MemoBase.CommandLine

namespace Console

variable {ε δ α β : Type} {a : α} {e : ε} {ps : List Print}

@[simp]
theorem print_bind (c : Channel) (t : Text) (f : Unit → Console ε β) :
    print c t >>= f = ⟨⟨c, t⟩ :: (f ()).prints, (f ()).ending⟩ :=
  rfl

theorem bind_ok (f : α → Console ε β) :
    (⟨ps, .ok a⟩ : Console ε α) >>= f = ⟨ps ++ (f a).prints, (f a).ending⟩ :=
  rfl

theorem bind_error (f : α → Console ε β) :
    (⟨ps, .error e⟩ : Console ε α) >>= f = ⟨ps, .error e⟩ :=
  rfl

theorem rescue_ok (f : ε → Console δ α) :
    rescue (⟨ps, .ok a⟩ : Console ε α) f = ⟨ps, .ok a⟩ :=
  rfl

-- What has been printed before a failure stays.
theorem rescue_error (f : ε → Console δ α) :
    rescue (⟨ps, .error e⟩ : Console ε α) f = ⟨ps ++ (f e).prints, (f e).ending⟩ :=
  rfl

theorem printAll_eq (c : Channel) (ss : List Text) :
    (printAll c ss : Console ε Unit) = ⟨ss.map (⟨c, ·⟩), .ok ()⟩ := by
  induction ss
  case nil          => rfl
  case cons s ss hi =>
    rw [printAll, print_bind, hi]
    rfl

end Console

namespace Print

variable {c c' : Channel} {ps qs : List Print}

@[simp]
theorem on_nil : on c [] = [] :=
  rfl

@[simp]
theorem on_cons {p : Print} : on c (p :: ps) = if p.channel = c then p.text :: on c ps else on c ps := by
  rw [on, List.filter_cons]
  simp only [decide_eq_true_eq]
  split <;> rfl

@[simp]
theorem on_append : on c (ps ++ qs) = on c ps ++ on c qs := by
  simp [on]

@[simp]
theorem on_map {ss : List Text} : on c (ss.map (⟨c', ·⟩)) = if c' = c then ss else [] := by
  induction ss
  case nil          => simp
  case cons s ss hi =>
    rw [List.map_cons, on_cons, hi]
    split <;> rfl

end Print
end MemoBase.CommandLine
