import MemoBase.Sheet.Record

namespace MemoBase

namespace Draft

-- What one line does to the open draft: the draft behind the line, and the draft that it ends.
inductive Step (raw : Text) : Option Draft → Option Draft → List Draft → Prop
  | start : Step raw none (Statement.opened? raw.trim) []
  | close {d : Draft} {delim : Text} :
    d.delim? = some delim → raw.trimRight = delim → Step raw (some d) none [d]
  | fill {d : Draft} {delim : Text} :
    d.delim? = some delim → raw.trimRight ≠ delim → Step raw (some d) (some (d.add raw)) []
  | grow {d : Draft} :
    d.delim? = none → Statement.continues raw.trim → Step raw (some d) (some (d.add raw.trim)) []
  | turn {d : Draft} :
    d.delim? = none → ¬Statement.continues raw.trim →
    Step raw (some d) (Statement.opened? raw.trim) [d]

def ended (d? : Option Draft) (raw : Text) : List Draft :=
  if (Statement.step d? raw).2 = [] then [] else d?.toList

def pending (d? : Option Draft) (ls : List Text) : Option Draft :=
  ls.foldl (fun d? raw => (Statement.step d? raw).1) d?

def finished (d? : Option Draft) : List Text → List Draft
  | []        => []
  | raw :: ls => ended d? raw ++ finished (Statement.step d? raw).1 ls

-- The drafts of a text. The end of the text finishes the last one as it is.
def ofText (s : Text) : List Draft :=
  finished none s.lines ++ (pending none s.lines).toList

variable {d : Draft} {d? d?' : Option Draft} {raw : Text} {ls : List Text} {ds : List Draft}

theorem step_spec (d? : Option Draft) (raw : Text) :
    Step raw d? (Statement.step d? raw).1 (ended d? raw) := by
  unfold ended
  fun_cases Statement.step d? raw
  case case1      => exact .start
  case case2 d hd => exact .close hd rfl
  case case3 hd h => exact .fill hd h
  case case4 hd h => exact .grow hd h
  case case5 hd h => exact .turn hd h

theorem step_snd (d? : Option Draft) (raw : Text) :
    (Statement.step d? raw).2 = (ended d? raw).map finish := by
  unfold ended
  fun_cases Statement.step d? raw <;> simp

@[simp]
theorem pending_nil : pending d? [] = d? :=
  rfl

@[simp]
theorem pending_cons : pending d? (raw :: ls) = pending (Statement.step d? raw).1 ls :=
  rfl

section Invariant

variable {p : Draft → Prop}

theorem Step.mem (h : Step raw d? d?' ds) (hd : d ∈ ds) : d ∈ d? := by
  cases h
  case close | turn => exact Option.mem_some.mpr (List.mem_singleton.mp hd).symm
  all_goals contradiction

-- A property of drafts holds throughout a scan if the lines open drafts with the property only and
-- keep it when they are added.
theorem Step.preserves (h : Step raw d? d?' ds) (ho : ∀ d ∈ Statement.opened? raw.trim, p d)
    (ha : ∀ d, p d → p (d.add raw) ∧ p (d.add raw.trim)) (hp : ∀ d ∈ d?, p d) : ∀ d ∈ d?', p d := by
  cases h
  case start | turn => exact ho
  case close        => nofun
  case fill d _ _ _ =>
    intro _ hd
    exact Option.mem_some.mp hd ▸ (ha d (hp d rfl)).left
  case grow d _ _ =>
    intro _ hd
    exact Option.mem_some.mp hd ▸ (ha d (hp d rfl)).right

theorem forall_scan (ho : ∀ raw ∈ ls, ∀ d ∈ Statement.opened? raw.trim, p d)
    (ha : ∀ raw ∈ ls, ∀ d, p d → p (d.add raw) ∧ p (d.add raw.trim)) (hp : ∀ d ∈ d?, p d) :
    (∀ d ∈ finished d? ls, p d) ∧ ∀ d ∈ pending d? ls, p d := by
  induction ls generalizing d?
  case nil => exact ⟨nofun, hp⟩
  case cons raw ls hi =>
    have ⟨ho, hos⟩ := List.forall_mem_cons.mp ho
    have ⟨ha, has⟩ := List.forall_mem_cons.mp ha
    have hs := step_spec d? raw
    have ⟨hf, hl⟩ := hi hos has (hs.preserves ho ha hp)
    exact ⟨List.forall_mem_append.mpr ⟨fun d hd => hp d (hs.mem hd), hf⟩, hl⟩

theorem forall_ofText {s : Text} (ho : ∀ raw ∈ s.lines, ∀ d ∈ Statement.opened? raw.trim, p d)
    (ha : ∀ raw ∈ s.lines, ∀ d, p d → p (d.add raw) ∧ p (d.add raw.trim)) : ∀ d ∈ ofText s, p d := by
  have ⟨hf, hl⟩ : (∀ d ∈ finished none s.lines, p d) ∧ ∀ d ∈ pending none s.lines, p d :=
    forall_scan ho ha nofun
  exact List.forall_mem_append.mpr ⟨hf, by simpa using hl⟩

end Invariant

end Draft

namespace Statement

theorem ofLines_append (d? : Option Draft) (ls₁ ls₂ : List Text) :
    ofLines d? (ls₁ ++ ls₂) =
      (Draft.finished d? ls₁).map Draft.finish ++ ofLines (Draft.pending d? ls₁) ls₂ := by
  induction ls₁ generalizing d?
  case nil => rfl
  case cons raw ls hi => simp [ofLines, hi, Draft.finished, Draft.step_snd]

theorem ofLines_eq_map (d? : Option Draft) (ls : List Text) :
    ofLines d? ls = (Draft.finished d? ls ++ (Draft.pending d? ls).toList).map Draft.finish := by
  have := ofLines_append d? ls []
  rw [List.append_nil] at this
  rw [this, List.map_append]
  cases Draft.pending d? ls <;> rfl

theorem ofText_eq_map (s : Text) : ofText s = (Draft.ofText s).map Draft.finish :=
  ofLines_eq_map none s.lines

end Statement
end MemoBase
