import MemoBase.Proofs.Sheet.Line
import MemoBase.Proofs.Text.Pattern

namespace MemoBase

open Text

namespace Line

inductive Part
  | mark
  | key
  | sep
  | delim
  | value
  deriving DecidableEq

def keyPattern : Pattern Part :=
  .seq (.one Node.isKeyStart) (.many Node.isKeyChar)

def delimPattern : Pattern Part :=
  .seq (.many isBlank) (.group .delim (.oneOrMore (!isBlank ·)))

def blockPattern : Pattern Part :=
  .seq (.many isBlank) (.seq (.one (· == '<')) (.seq (.one (· == '<')) delimPattern))

def valuePattern : Pattern Part :=
  .seq (.oneOrMore isBlank) (.group .value (.few (· != '\n')))

-- From the rest on.
def restPattern : Pattern Part :=
  .seq (.alt blockPattern (.alt valuePattern .skip)) (.many isBlank)

-- From the separator on.
def sepPattern : Pattern Part :=
  .seq (.optional (.group .sep (.oneOrMore isSeparator))) restPattern

-- From the key on.
def keyedPattern : Pattern Part :=
  .seq (.group .key keyPattern) sepPattern

def pattern : Pattern Part :=
  .seq (.group .mark (.one fun c => c == '@' || c == '.' || c == '+')) keyedPattern

-- A text that is not there leaves no group.
def group (n : Part) (s : Text) : List (Part × Text) :=
  if s = [] then [] else [(n, s)]

end Line

def Opening.groups : Opening → List (Line.Part × Text)
  | inline s    => Line.group .value s
  | block delim => [(.delim, delim)]

namespace Line

def groups (l : Line) : List (Part × Text) :=
  (.mark, [l.mark.char]) :: (.key, l.key) :: (group .sep l.sep ++ l.opening.groups)

section Rest

open Pattern

variable {s : Text}

theorem fullMatch?_blanks :
    (many isBlank : Pattern Part).fullMatch? s = if trimLeft s = [] then some [] else none := by
  rw [fullMatch?_eq_first, first_many_of_refused]
  · rfl
  · intro w c r _ _
    simp

theorem fullMatch?_blanks_nil : (many isBlank : Pattern Part).fullMatch? [] = some [] :=
  rfl

theorem fullMatch?_blanks_cons {c : Char} (h : isBlank c = false) :
    (many isBlank : Pattern Part).fullMatch? (c :: s) = none := by
  simp [fullMatch?_blanks, trimLeft, h]

-- One token that nothing but blanks may follow.
theorem first_delim (hs : trimRight s = s) :
    delimPattern.first s (fun w =>
        ((many isBlank : Pattern Part).fullMatch? w.rest).map (w.groups ++ ·)) =
      if trimLeft s ≠ [] ∧ (trimLeft s).all (!isBlank ·) then some [(.delim, trimLeft s)]
      else none := by
  simp only [delimPattern, first_seq, first_group, Way.append]
  rw [first_many_of_refused, ← trimLeft]
  · have hs := trimRight_of_suffix hs (trimLeft_suffix s)
    have hb : Stops isBlank (trimLeft s) := .dropWhile isBlank s
    cases hl : trimLeft s
    case nil => rfl
    case cons c r =>
      have hc : isBlank c = false := Stops.cons.mp (hl ▸ hb)
      have hr : trimRight (r.dropWhile (!isBlank ·)) = r.dropWhile (!isBlank ·) :=
        trimRight_of_suffix (hl ▸ hs) ((List.dropWhile_suffix _).trans (List.suffix_cons c r))
      rw [first_oneOrMore_cons, if_pos (by simp [hc]), first_many_of_refused]
      · by_cases ha : (c :: r).all (!isBlank ·)
        case pos =>
          have hr' : ∀ d ∈ r, !isBlank d :=
            fun d hd => List.all_eq_true.mp ha d (List.mem_cons_of_mem c hd)
          have ht : r.takeWhile (!isBlank ·) = r := List.takeWhile_eq_self_iff.mpr hr'
          have hd : r.dropWhile (!isBlank ·) = [] := List.dropWhile_eq_nil_iff.mpr hr'
          rw [if_pos ⟨List.cons_ne_nil c r, ha⟩, ht, hd]
          rfl
        case neg =>
          have hd : trimLeft (r.dropWhile (!isBlank ·)) ≠ [] := by
            rw [ne_eq, trimLeft_eq_nil_iff hr, List.dropWhile_eq_nil_iff]
            simpa [hc] using ha
          rw [if_neg (ha ·.right), fullMatch?_blanks, if_neg hd]
          rfl
      · intro w d r _ hd
        simp [fullMatch?_blanks_cons (by simpa using hd)]
  · intro w c r _ hc
    simp [hc]

theorem first_block (hs : trimRight s = s) :
    blockPattern.first s (fun w =>
        ((many isBlank : Pattern Part).fullMatch? w.rest).map (w.groups ++ ·)) =
      (delim? (trimLeft s)).map fun delim => [(.delim, delim)] := by
  have hb : isBlank '<' = false := by decide
  simp only [blockPattern, first_seq, Way.append]
  rw [first_many_of_refused, ← trimLeft]
  · have hs := trimRight_of_suffix hs (trimLeft_suffix s)
    unfold delim?
    split
    case h_1 r he =>
      rw [he] at hs ⊢
      have hr : trimRight r = r := trimRight_of_suffix hs ⟨['<', '<'], rfl⟩
      have ht : trim r = trimLeft r := trimRight_of_suffix hr (trimLeft_suffix r)
      simp only [first_one_cons, beq_self_eq_true, if_true, List.nil_append, ht, first_delim hr]
      split <;> rfl
    case h_2 hn =>
      generalize trimLeft s = t at hn
      rcases t with _ | ⟨c, _ | ⟨d, r⟩⟩
      case nil       => rfl
      case cons.nil  => by_cases hc : c = '<' <;> simp [hc]
      case cons.cons =>
        by_cases hc : c = '<'
        case neg => simp [hc]
        case pos =>
          have hd : d ≠ '<' := fun hd => hn r (by rw [hc, hd])
          simp [hc, hd]
  · intro w c r _ hc
    have hc : (c == '<') = false := beq_of_isBlank hc hb
    simp [hc]

theorem first_value (hs : trimRight s = s) (hn : '\n' ∉ s) :
    valuePattern.first s (fun w =>
        ((many isBlank : Pattern Part).fullMatch? w.rest).map (w.groups ++ ·)) =
      if Stops isBlank s then none else some [(.value, trim s)] := by
  have ht : trim s = trimLeft s := trimRight_of_suffix hs (trimLeft_suffix s)
  simp only [valuePattern, first_seq, first_group, Way.append]
  cases s
  case nil => rfl
  case cons c s =>
    by_cases hc : isBlank c
    case neg => simp [hc]
    case pos =>
      have hl : trimLeft (c :: s) = s.dropWhile isBlank := List.dropWhile_cons_of_pos hc
      have hu : s.dropWhile isBlank <:+ c :: s :=
        (List.dropWhile_suffix _).trans (List.suffix_cons c s)
      have hb (w r : Text) (d : Char) (h : w ++ d :: r = s.dropWhile isBlank) :
          (many isBlank : Pattern Part).fullMatch? (d :: r) = none := by
        have hr : trimRight (d :: r) = d :: r := trimRight_of_suffix hs (.trans ⟨w, h⟩ hu)
        rw [fullMatch?_blanks, if_neg (mt (trimLeft_eq_nil_iff hr).mp (List.cons_ne_nil d r))]
      have hf : ∀ d ∈ s.dropWhile isBlank, d != '\n' := by
        intro d hd
        rw [bne_iff_ne]
        rintro rfl
        exact hn (hu.mem hd)
      rw [first_oneOrMore_cons, if_pos hc, first_many, first_few hf]
      · simp [fullMatch?_blanks_nil, hc, ht, hl]
      · intro w d r h
        simp [hb w r d h]
      · intro hn
        rw [first_few hf] at hn
        · simp [fullMatch?_blanks_nil] at hn
        · intro w d r h
          simp [hb w r d h]

theorem fullMatch?_rest (hs : trimRight s = s) (hn : '\n' ∉ s) :
    restPattern.fullMatch? s = (opening? s).map Opening.groups := by
  rw [restPattern, fullMatch?_seq, first_alt, first_alt, first_block hs, first_value hs hn, first_skip]
  cases hd : delim? (trimLeft s)
  case some delim =>
    simp only [opening?, hd]
    rfl
  case none =>
    cases s
    case nil => rfl
    case cons c s =>
      simp only [opening?, hd, Stops.cons]
      cases hc : isBlank c
      case false => simp [fullMatch?_blanks_cons hc]
      case true =>
        have hl : trimLeft (c :: s) ≠ [] := mt (trimLeft_eq_nil_iff hs).mp (List.cons_ne_nil c s)
        have ht : trim (c :: s) = trimLeft (c :: s) := trimRight_of_suffix hs (trimLeft_suffix _)
        simp [Opening.groups, group, ht, hl]

-- No rest begins with a character of a key or a separator.
theorem opening?_eq_none {c : Char} (hb : isBlank c = false) (hc : c ≠ '<') :
    opening? (c :: s) = none := by
  have ht : trimLeft (c :: s) = c :: s := trimLeft_eq_self_iff.mpr (Stops.cons.mpr hb)
  have hd : delim? (c :: s) = none := delim?_eq_none (by simp [List.isPrefixOf, hc.symm])
  simp [opening?, ht, hd, hb]

theorem fullMatch?_sep (hs : trimRight s = s) (hn : '\n' ∉ s) :
    sepPattern.fullMatch? s = (opening? (s.dropWhile isSeparator)).map fun o =>
      group .sep (s.takeWhile isSeparator) ++ o.groups := by
  have hr {r : Text} (h : r <:+ s) : restPattern.fullMatch? r = (opening? r).map Opening.groups :=
    fullMatch?_rest (trimRight_of_suffix hs h) fun hm => hn (h.mem hm)
  have hx {c : Char} {r : Text} (hc : isSeparator c) : opening? (c :: r) = none := by
    simp only [isSeparator, Bool.and_eq_true, Bool.not_eq_true', bne_iff_ne] at hc
    exact opening?_eq_none hc.left.right hc.right
  rw [sepPattern, fullMatch?_seq, first_optional, first_group]
  cases s
  case nil => rfl
  case cons c s =>
    cases hc : isSeparator c
    case false =>
      simp only [first_oneOrMore_cons, hc, Bool.false_eq_true, if_false, Option.none_or]
      simp [hr List.suffix_rfl, hc, group, Function.comp_def]
    case true =>
      have hd : s.dropWhile isSeparator <:+ c :: s :=
        (List.dropWhile_suffix _).trans (List.suffix_cons c s)
      rw [first_oneOrMore_cons, if_pos hc, first_many_of_refused, hr hd, hr List.suffix_rfl, hx hc]
      · simp [hc, group, Function.comp_def]
      · intro w d r h hd
        simp [hr (List.IsSuffix.trans ⟨w, h⟩ (List.suffix_cons c s)), hx hd]

-- What the key gives back leads to nothing that the longest key does not lead to.
theorem fullMatch?_sep_eq_none {w r : Text} (hs : trimRight (w ++ r) = w ++ r) (hn : '\n' ∉ w ++ r)
    (hw : ∀ c ∈ w, Node.isKeyChar c) (hr : sepPattern.fullMatch? r = none) :
    sepPattern.fullMatch? (w ++ r) = none := by
  induction w
  case nil => exact hr
  case cons c w hi =>
    have ⟨hc, hw⟩ := List.forall_mem_cons.mp hw
    rw [List.cons_append] at hs hn ⊢
    rw [fullMatch?_sep hs hn, Option.map_eq_none_iff]
    cases hp : isSeparator c
    case false =>
      have hb : isBlank c = false := Node.isBlank_of_isKeyChar hc
      have hl : c ≠ '<' := by
        rintro rfl
        contradiction
      rw [List.dropWhile_cons_of_neg (by simp [hp]), opening?_eq_none hb hl]
    case true =>
      have hs' := trimRight_of_suffix hs (List.suffix_cons c _)
      have hn' : '\n' ∉ w ++ r := fun hm => hn (List.mem_cons_of_mem c hm)
      have := hi hs' hn' hw
      rw [fullMatch?_sep hs' hn', Option.map_eq_none_iff] at this
      rwa [List.dropWhile_cons_of_pos hp]

theorem isSome_fullMatch?_key : (keyPattern.fullMatch? s).isSome ↔ Node.isKey s := by
  rw [keyPattern, fullMatch?_seq]
  cases s
  case nil => simp [Node.isKey]
  case cons c s =>
    rw [first_one_cons, fullMatch?_eq_first, first_many_of_refused]
    · by_cases hc : Node.isKeyStart c <;> by_cases hs : ∀ c ∈ s, Node.isKeyChar c <;>
        simp_all [Node.isKey]
    · intro w d r _ _
      simp

theorem fullMatch?_keyed (hs : trimRight s = s) (hn : '\n' ∉ s) :
    keyedPattern.fullMatch? s = (Node.readKey? s).bind fun k =>
      (sepPattern.fullMatch? k.2).map ((.key, k.1) :: ·) := by
  simp only [keyedPattern, keyPattern, fullMatch?_seq, first_group, first_seq, Way.append]
  cases s
  case nil => rfl
  case cons c s =>
    by_cases hc : Node.isKeyStart c
    case neg => simp [hc, Node.readKey?]
    case pos =>
      rw [first_one_cons, if_pos hc, first_many]
      · simp [hc, Node.readKey?]
      · intro hk w d r h hw hd
        have h : w ++ d :: r = s := h
        have hk : sepPattern.fullMatch? (s.dropWhile Node.isKeyChar) = none := by simpa using hk
        have hr : d :: r <:+ c :: s := .trans ⟨w, h⟩ (List.suffix_cons c s)
        rw [← h, List.dropWhile_append_of_pos hw] at hk
        have := fullMatch?_sep_eq_none (w := (d :: r).takeWhile Node.isKeyChar)
          (r := (d :: r).dropWhile Node.isKeyChar)
        rw [List.takeWhile_append_dropWhile] at this
        have := this (trimRight_of_suffix hs hr) (fun hm => hn (hr.mem hm))
          (fun c hc => List.mem_takeWhile_imp hc) hk
        simp [this]

end Rest

theorem fullMatch?_eq {s : Text} (ht : s.trim = s) (hs : Unbroken s) :
    pattern.fullMatch? s = (read? s).map groups := by
  have hr : trimRight s = s := trimRight_eq_self_iff.mpr (trim_eq_self_iff.mp ht).right
  have hn := hs.feed_not_mem
  rw [pattern, Pattern.fullMatch?_seq, Pattern.first_group]
  cases s
  case nil => rfl
  case cons c s =>
    have hr' : trimRight s = s := trimRight_of_suffix hr (List.suffix_cons c s)
    have hn' : '\n' ∉ s := fun hm => hn (List.mem_cons_of_mem c hm)
    have hc : (c == '@' || c == '.' || c == '+') = (Mark.ofChar? c).isSome := by
      unfold Mark.ofChar?
      split <;> simp_all
    rw [Pattern.first_one_cons, hc, read?, fullMatch?_keyed hr' hn']
    cases hm : Mark.ofChar? c
    case none => rfl
    case some m =>
      cases Mark.ofChar?_eq_some_iff.mp hm
      cases hk : Node.readKey? s
      case none => rfl
      case some k =>
        obtain ⟨_, _, he⟩ := Node.readKey?_eq_some_iff.mp hk
        have hks : k.2 <:+ s := ⟨k.1, he.symm⟩
        simp only [Option.isSome_some, if_true, Option.bind_some]
        rw [fullMatch?_sep (trimRight_of_suffix hr' hks) fun hm => hn' (hks.mem hm)]
        cases ho : opening? (k.2.dropWhile isSeparator) <;> simp [ho, groups]

-- Two angle brackets and one token, with nothing but blanks between them.
def Opens (delim s : Text) : Prop :=
  delim.IsDelim ∧ ∃ w : Text, (∀ c ∈ w, isBlank c) ∧ s = '<' :: '<' :: (w ++ delim)

-- The line parted at the longest key and the longest separator.
structure Split (s : Text) (mark : Char) (key sep rest : Text) : Prop where
  eq   : s = mark :: (key ++ (sep ++ rest))
  mark : mark = '@' ∨ mark = '.' ∨ mark = '+'
  key  : Longest (fun k => (keyPattern.fullMatch? k).isSome) key (key ++ (sep ++ rest))
  sep  : Longest (∀ c ∈ ·, isSeparator c) sep (sep ++ rest)
  rest : rest = [] ∨ (∃ c ∈ rest.head?, isBlank c) ∨ ∃ delim, Opens delim rest

section Split

variable {s key sep rest delim : Text} {mark : Char} {l : Line}

theorem longest_key_iff : Longest (fun k => (keyPattern.fullMatch? k).isSome) key (key ++ rest) ↔
    Node.isKey key ∧ Stops Node.isKeyChar rest := by
  simp only [isSome_fullMatch?_key]
  refine longest_append_iff (fun _ => Node.isKeyChar_of_isKey) fun k c hk hc => ?_
  cases k
  case nil  => contradiction
  case cons => simp_all [Node.isKey]

theorem longest_sep_iff : Longest (∀ c ∈ ·, isSeparator c) sep (sep ++ rest) ↔
    (∀ c ∈ sep, isSeparator c) ∧ Stops isSeparator rest := by
  refine longest_append_iff (fun _ => id) fun u c hu hc => ?_
  exact List.forall_mem_append.mpr ⟨hu, List.forall_mem_singleton.mpr hc⟩

theorem delim?_eq_some_iff (hs : trimRight s = s) : delim? s = some delim ↔ Opens delim s where
  mp h := by
    refine ⟨isDelim_of_delim? h, ?_⟩
    unfold delim? at h
    split at h
    case h_2 => contradiction
    case h_1 r =>
      have hr : trimRight r = r := trimRight_of_suffix hs ⟨['<', '<'], rfl⟩
      have ht : trim r = trimLeft r := trimRight_of_suffix hr (trimLeft_suffix r)
      simp only [Option.ite_none_right_eq_some, Option.some.injEq] at h
      refine ⟨r.takeWhile isBlank, fun c hc => List.mem_takeWhile_imp hc, ?_⟩
      rw [← h.right, ht, trimLeft, List.takeWhile_append_dropWhile]
  mpr := by
    rintro ⟨hd, w, hw, rfl⟩
    have ht : trim (w ++ delim) = delim := (trim_append_left hw).trans (trim_of_no_blank hd.right)
    simpa [delim?, ht, IsDelim] using hd

theorem opening?_eq_some_iff {o : Opening} (hs : trimRight rest = rest) :
    opening? rest = some o ↔ (∃ delim, Opens delim rest.trimLeft ∧ o = .block delim) ∨
      (∀ delim, ¬Opens delim rest.trimLeft) ∧ (rest = [] ∨ ∃ c ∈ rest.head?, isBlank c) ∧
        o = .inline rest.trim := by
  have hd (delim : Text) : delim? rest.trimLeft = some delim ↔ Opens delim rest.trimLeft :=
    delim?_eq_some_iff (trimRight_of_suffix hs (trimLeft_suffix rest))
  simp only [← hd]
  unfold opening?
  cases delim? rest.trimLeft
  case some delim => simpa using eq_comm
  case none =>
    cases rest
    case nil      => simpa [show trim [] = [] from rfl] using eq_comm
    case cons c r => cases hc : isBlank c <;> simp [hc, eq_comm (b := o)]

theorem opening?_isSome_iff (hs : trimRight rest = rest) : (opening? rest).isSome ↔
    rest = [] ∨ (∃ c ∈ rest.head?, isBlank c) ∨ ∃ delim, Opens delim rest := by
  simp only [Option.isSome_iff_exists, opening?_eq_some_iff hs]
  constructor
  case mp =>
    rintro ⟨o, ⟨delim, hd, _⟩ | ⟨_, hb, _⟩⟩
    case inr => exact hb.imp_right .inl
    case inl =>
      by_cases hb : Stops isBlank rest
      case pos => exact .inr (.inr ⟨delim, trimLeft_eq_self_iff.mpr hb ▸ hd⟩)
      case neg => exact .inr (.inl (by simpa [Stops] using hb))
  case mpr =>
    intro h
    by_cases hd : ∃ delim, Opens delim rest.trimLeft
    case pos =>
      obtain ⟨delim, hd⟩ := hd
      exact ⟨_, .inl ⟨delim, hd, rfl⟩⟩
    case neg =>
      have hn : ¬∃ delim, Opens delim rest := by
        rintro ⟨delim, ho⟩
        obtain ⟨_, w, _, rfl⟩ := id ho
        have hl : Stops isBlank ('<' :: '<' :: (w ++ delim)) := Stops.cons.mpr (by decide)
        exact hd ⟨delim, (trimLeft_eq_self_iff.mpr hl).symm ▸ ho⟩
      exact ⟨_, .inr ⟨not_exists.mp hd, h.imp_right fun h => h.resolve_right hn, rfl⟩⟩

theorem split_iff (hs : trimRight s = s) : Split s mark key sep rest ↔
    ∃ l ∈ read? s, l.mark.char = mark ∧ l.key = key ∧ l.sep = sep ∧
      s = mark :: (key ++ (sep ++ rest)) ∧ opening? rest = some l.opening := by
  constructor
  case mp =>
    intro h
    have hr : trimRight rest = rest :=
      trimRight_of_suffix hs ⟨mark :: (key ++ sep), by simp [h.eq]⟩
    have ⟨o, ho⟩ := Option.isSome_iff_exists.mp ((opening?_isSome_iff hr).mpr h.rest)
    have ⟨m, hm⟩ : ∃ m : Mark, m.char = mark := by
      rcases h.mark with rfl | rfl | rfl
      exacts [⟨.header, rfl⟩, ⟨.data, rfl⟩, ⟨.attr, rfl⟩]
    have ⟨hk, hks⟩ := longest_key_iff.mp h.key
    have ⟨hp, hps⟩ := longest_sep_iff.mp h.sep
    refine ⟨⟨m, key, sep, o⟩, ?_, hm, rfl, rfl, h.eq, ho⟩
    exact read?_eq_some_iff.mpr ⟨rest, hm ▸ h.eq, hk, hks, hp, hps, ho⟩
  case mpr =>
    rintro ⟨l, hl, rfl, rfl, rfl, hs', ho⟩
    have ⟨rest', he, hk, hks, hp, hps, _⟩ := read?_eq_some_iff.mp hl
    have hr : rest' = rest := by simpa using he.symm.trans hs'
    subst hr
    have hr : trimRight rest' = rest' :=
      trimRight_of_suffix hs ⟨l.mark.char :: (l.key ++ l.sep), by simp [hs']⟩
    refine ⟨hs', ?mark, longest_key_iff.mpr ⟨hk, hks⟩, longest_sep_iff.mpr ⟨hp, hps⟩, ?rest⟩
    case mark => cases l.mark <;> simp [Mark.char]
    case rest => exact (opening?_isSome_iff hr).mp (by simp [ho])

theorem lookup_group (n n' : Part) (s : Text) :
    (group n s).lookup n' = if n' = n ∧ s ≠ [] then some s else none := by
  unfold group
  by_cases hn : n' = n
  case pos => by_cases hs : s = [] <;> simp [hn, hs]
  case neg =>
    split
    case isTrue  => simp [hn]
    case isFalse => simp [hn, List.lookup_cons, beq_false_of_ne hn]

theorem lookup_groups (l : Line) :
    l.groups.lookup .mark = some [l.mark.char] ∧ l.groups.lookup .key = some l.key ∧
    l.groups.lookup .sep = (if l.sep = [] then none else some l.sep) ∧
    (∀ delim, l.groups.lookup .delim = some delim ↔ l.opening = .block delim) ∧
    ∀ s, l.opening = .inline s → l.groups.lookup .value = if s = [] then none else some s := by
  have hl (n : Part) (hm : n ≠ .mark) (hk : n ≠ .key) :
      l.groups.lookup n = ((group .sep l.sep).lookup n).or (l.opening.groups.lookup n) := by
    rw [groups, List.lookup_cons, List.lookup_cons, beq_false_of_ne hm, beq_false_of_ne hk,
      List.lookup_append]
  refine ⟨rfl, rfl, ?sep, ?delim, ?value⟩
  case sep =>
    have ho : l.opening.groups.lookup .sep = none := by
      cases l.opening
      case inline s => simp [Opening.groups, lookup_group]
      case block    => rfl
    rw [hl .sep (by decide) (by decide), ho, Option.or_none]
    simp [lookup_group]
  case delim =>
    intro delim
    rw [hl .delim (by decide) (by decide)]
    cases l.opening <;> simp [Opening.groups, lookup_group]
  case value =>
    intro s hs
    rw [hl .value (by decide) (by decide), hs]
    simp [Opening.groups, lookup_group]

-- A stripped line is matched by the pattern exactly if it can be parted in the greedy way, and the
-- groups of the match are then the parts.
theorem fullMatch?_greedy {s : Text} (ht : s.trim = s) (hs : Unbroken s) :
    ((pattern.fullMatch? s).isSome ↔ ∃ mark key sep rest, Split s mark key sep rest) ∧
    (∀ mark key sep rest, Split s mark key sep rest → ∃ gs, pattern.fullMatch? s = some gs ∧
      gs.lookup .mark = some [mark] ∧ gs.lookup .key = some key ∧
      gs.lookup .sep = (if sep = [] then none else some sep) ∧
      (∀ delim, gs.lookup .delim = some delim ↔ Opens delim rest.trimLeft) ∧
      ((∀ delim, ¬Opens delim rest.trimLeft) →
        gs.lookup .value = if rest.trim = [] then none else some rest.trim)) ∧
    pattern.fullMatch? s = (read? s).map groups := by
  have hm := fullMatch?_eq ht hs
  have hr : trimRight s = s := trimRight_eq_self_iff.mpr (trim_eq_self_iff.mp ht).right
  refine ⟨?iff, ?groups, hm⟩
  case iff =>
    simp only [split_iff hr, hm, Option.isSome_map, Option.isSome_iff_exists]
    constructor
    case mp =>
      intro ⟨l, hl⟩
      have ⟨rest, he, _, _, _, _, ho⟩ := read?_eq_some_iff.mp hl
      exact ⟨_, _, _, rest, l, hl, rfl, rfl, rfl, he, ho⟩
    case mpr => exact fun ⟨_, _, _, _, l, hl, _⟩ => ⟨l, hl⟩
  case groups =>
    intro mark key sep rest h
    obtain ⟨l, hl, rfl, rfl, rfl, he, ho⟩ := (split_iff hr).mp h
    have hr : trimRight rest = rest :=
      trimRight_of_suffix hr ⟨l.mark.char :: (l.key ++ l.sep), by simp [he]⟩
    have ⟨hmark, hkey, hsep, hdelim, hvalue⟩ := l.lookup_groups
    have ho := (opening?_eq_some_iff hr).mp ho
    have hg : pattern.fullMatch? s = some l.groups := by rw [hm, Option.mem_def.mp hl]; rfl
    refine ⟨l.groups, hg, hmark, hkey, hsep, fun delim => ?_, fun hn => ?_⟩
    · rw [hdelim]
      rcases ho with ⟨delim', hd, ho⟩ | ⟨hn, _, ho⟩
      case inl =>
        have hu := trimRight_of_suffix hr (trimLeft_suffix rest)
        rw [← delim?_eq_some_iff hu] at hd ⊢
        simp [ho, hd]
      case inr => simp [ho, hn]
    · rcases ho with ⟨delim, hd, _⟩ | ⟨_, _, ho⟩
      case inl => exact absurd hd (hn delim)
      case inr => exact hvalue _ ho

theorem fullMatch?_greedy_overlaps :
    let s : Text := ".a-:b:-;:|<< <E>".toList
    s.trim = s ∧ Unbroken s ∧ Split s '.' "a-:b:-".toList ";:|".toList "<< <E>".toList ∧
    pattern.fullMatch? s = some [(.mark, ['.']), (.key, "a-:b:-".toList), (.sep, ";:|".toList),
      (.delim, "<E>".toList)] := by
  intro s
  have ht : s.trim = s := by decide +kernel
  have hs : Unbroken s := by decide +kernel
  have hm : pattern.fullMatch? s = some [(.mark, ['.']), (.key, "a-:b:-".toList),
    (.sep, ";:|".toList), (.delim, "<E>".toList)] := by decide +kernel
  have ⟨hi, hg, _⟩ := fullMatch?_greedy ht hs
  obtain ⟨mark, key, sep, rest, h⟩ := hi.mp (by rw [hm]; rfl)
  obtain ⟨gs, he, hmark, hkey, hsep, _⟩ := hg mark key sep rest h
  rw [← Option.some.inj (hm.symm.trans he)] at hmark hkey hsep
  have hmark : mark = '.' := by simpa using hmark.symm
  have hkey : key = "a-:b:-".toList := (Option.some.inj hkey).symm
  have hsep : (if sep = [] then none else some sep) = some ";:|".toList := hsep.symm
  rw [Option.ite_none_left_eq_some] at hsep
  have hsep : sep = ";:|".toList := Option.some.inj hsep.right
  subst hmark hkey hsep
  have hr : rest = "<< <E>".toList := by simpa [s] using h.eq.symm
  exact ⟨ht, hs, hr ▸ h, hm⟩

end Split

end Line
end MemoBase
