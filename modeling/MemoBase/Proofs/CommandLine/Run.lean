import MemoBase.Proofs.Command.Narrowing
import MemoBase.Proofs.CommandLine.Console
import MemoBase.Proofs.Sheet.Inclusion

namespace MemoBase

-- The memos of a sheet together with those that it includes, and the includes that it rejects.
def Disk.Reads (d : Disk) (p : Path) (ms : List Memo) (js : List Rejection) : Prop :=
  ∃ t, d.read p = .ok t ∧ d.Yields [d.resolve p] p.parent t ms js

theorem Disk.readSheet_succeeds_iff {d : Disk} {p : Path} {ms : List Memo} {js : List Rejection} :
    (d.readSheet p).Succeeds ms js ↔ d.Reads p ms js := by
  rw [readSheet, Reads]
  cases d.read p
  case error => simp [Reading.not_fail_succeeds]
  case ok    => simp [expand_succeeds_iff_yields]

namespace CommandLine

-- The arguments and the settings that a run begins with.
structure Begins (h : Host) (d : Disk) (env : Environment) (words : List Text) (a : Arguments)
    (s : Settings) : Prop where
  arguments : h.arguments words = .ok a
  settings  : h.start d env a = .ok s

-- The input is the one that the arguments name, else the one of the settings.
inductive Chooses (a : Arguments) (s : Settings) : Input → Prop
  | argument {name : Text} :
    a.input? = some name → name ≠ [] → Chooses a s ⟨name, .ofText name⟩
  | settings {p : Path} :
    (∀ name ∈ a.input?, name = []) → s.file? = some p → Chooses a s ⟨p.text, p⟩

-- The text of a command. Arguments come before settings.
inductive Writes (a : Arguments) (s : Settings) (shown : Text) (ms : List Memo) (f : MemoFilter) :
    Text → Prop
  | list :
    a.command = .list →
    Writes a s shown ms f (f.listing ((a.verbose?.map Int.ofNat).getD s.verbosity) ms)
  | stats :
    a.command = .stats →
    Writes a s shown ms f ("Statistics for '".toList ++ shown ++ "':\n#Memos = ".toList ++
      Text.ofNat (f.stats ms).memos ++ "\n#Nodes = ".toList ++ Text.ofNat (f.stats ms).nodes)
  | document {name text : Text} :
    a.command = .document → a.template? = some (some name) →
    Template.document ms name f = .ok text → Writes a s shown ms f text

-- Exactly a text has been printed, with a line feed after it.
structure Shows (ps : List Print) (text : Text) : Prop where
  output   : (Print.on .output ps).flatMap (· ++ ['\n']) = text ++ ['\n']
  messages : Print.on .messages ps = []

def told (js : List Rejection) : List Print :=
  (js.map fun j => message j.message).map (⟨.messages, ·⟩)

-- The ways for a run to finish. Numerals that are too long are no fault of the program's own kind.
inductive Ends (d : Disk) (a : Arguments) (s : Settings) : Result → Prop
  | noInput :
    (∀ input, ¬Chooses a s input) →
    Ends d a s ⟨1, [⟨.messages, message "no input file given (argument or MERULA_FILE)".toList⟩]⟩
  | unreadable {input : Input} {f : FileFault} {p : Path} :
    Chooses a s input → (d.readSheet input.path).memos = .error (.fault f p) →
    Ends d a s ⟨1, [⟨.messages, message ("cannot read '".toList ++ input.shown ++ "': ".toList ++
      (FileError.fault f p).message)⟩]⟩
  | refused {input : Input} {ms : List Memo} {js : List Rejection} {ps : List Print}
      {e : CommandError} :
    Chooses a s input → d.Reads input.path ms js →
    command a s input.shown ms = ⟨ps, .error e⟩ → (∀ ds, e ≠ .query (.longNumeral ds)) →
    Ends d a s ⟨1, told js ++ (ps ++ [⟨.messages, message e.message⟩])⟩
  | written {input : Input} {ms : List Memo} {js : List Rejection} {ps : List Print} :
    Chooses a s input → d.Reads input.path ms js → command a s input.shown ms = ⟨ps, .ok ()⟩ →
    Ends d a s ⟨0, told js ++ ps⟩

variable {d : Disk} {env : Environment} {words : List Text} {a : Arguments} {s : Settings}
variable {shown text text' : Text} {ms : List Memo} {js : List Rejection} {f : MemoFilter} {r : Result}
variable {ps : List Print} {n : Nat}

section Command

theorem document_eq_ok_iff {name? : Option Text} :
    document ms name? f = .ok text ↔
      ∃ name, name? = some name ∧ Template.document ms name f = .ok text := by
  cases name? <;> simp [document]

theorem Shows.unique (h : Shows ps text) (h' : Shows ps text') : text = text' :=
  List.append_cancel_right (h.output.symm.trans h'.output)

theorem printText_of_writes (h : Writes a s shown ms f text) :
    ∃ ps, printText a s shown ms f = ⟨ps, .ok ()⟩ ∧ Shows ps text := by
  cases h
  case list hc =>
    refine ⟨[⟨.output, _⟩], by rw [printText, hc]; rfl, ?_, rfl⟩
    simp
  case stats hc =>
    refine ⟨[⟨.output, _⟩, ⟨.output, _⟩, ⟨.output, _⟩], by rw [printText, hc]; rfl, ?_, rfl⟩
    simp
  case document hc hn ht =>
    have hd : document ms a.template?.join f = .ok text :=
      document_eq_ok_iff.mpr ⟨_, Option.join_eq_some_iff.mpr hn, ht⟩
    refine ⟨[⟨.output, text⟩], by rw [printText, hc, hd]; rfl, ?_, rfl⟩
    simp

-- What can fail comes before anything is printed.
theorem writes_or_printText_fails (a : Arguments) (s : Settings) (shown : Text) (ms : List Memo)
    (f : MemoFilter) :
    (∃ text, Writes a s shown ms f text) ∨ ∃ e, printText a s shown ms f = ⟨[], .error e⟩ := by
  cases hc : a.command
  case list  => exact .inl ⟨_, .list hc⟩
  case stats => exact .inl ⟨_, .stats hc⟩
  case document =>
    cases hd : document ms a.template?.join f
    case ok text =>
      obtain ⟨name, hn, ht⟩ := document_eq_ok_iff.mp hd
      exact .inl ⟨text, .document hc (Option.join_eq_some_iff.mp hn) ht⟩
    case error e =>
      refine .inr ⟨e, ?_⟩
      rw [printText, hc, hd]
      rfl

theorem command_of_ok (hf : MemoFilter.build ms (a.base?.getD s.base) a.filter? a.query? = .ok f) :
    command a s shown ms = printText a s shown ms f := by
  rw [command, hf]
  rfl

theorem command_of_error {e : CommandError}
    (hf : MemoFilter.build ms (a.base?.getD s.base) a.filter? a.query? = .error e) :
    command a s shown ms = ⟨[], .error e⟩ := by
  rw [command, hf]
  rfl

theorem command_shows_iff :
    (∃ ps, command a s shown ms = ⟨ps, .ok ()⟩ ∧ Shows ps text) ↔
      ∃ f, MemoFilter.build ms (a.base?.getD s.base) a.filter? a.query? = .ok f ∧
        Writes a s shown ms f text := by
  constructor
  case mp =>
    intro ⟨ps, hps, hs⟩
    cases hf : MemoFilter.build ms (a.base?.getD s.base) a.filter? a.query?
    case error =>
      exact absurd ((command_of_error hf).symm.trans hps) nofun
    case ok f =>
      rw [command_of_ok hf] at hps
      rcases writes_or_printText_fails a s shown ms f with ⟨t, ht⟩ | ⟨e, he⟩
      case inl =>
        obtain ⟨qs, hqs, hs'⟩ := printText_of_writes ht
        cases hps.symm.trans hqs
        exact ⟨f, rfl, hs.unique hs' ▸ ht⟩
      case inr => exact absurd (hps.symm.trans he) nofun
  case mpr =>
    intro ⟨f, hf, hw⟩
    rw [command_of_ok hf]
    exact printText_of_writes hw

theorem command_fails_or_shows (a : Arguments) (s : Settings) (shown : Text) (ms : List Memo) :
    (∃ e, command a s shown ms = ⟨[], .error e⟩) ∨
      ∃ ps text, command a s shown ms = ⟨ps, .ok ()⟩ ∧ Shows ps text := by
  cases hf : MemoFilter.build ms (a.base?.getD s.base) a.filter? a.query?
  case error e => exact .inl ⟨e, command_of_error hf⟩
  case ok f =>
    rw [command_of_ok hf]
    rcases writes_or_printText_fails a s shown ms f with ⟨text, ht⟩ | he
    case inl =>
      obtain ⟨ps, hps, hs⟩ := printText_of_writes ht
      exact .inr ⟨ps, text, hps, hs⟩
    case inr => exact .inl he

end Command

section Run

theorem input?_eq_some_iff {input : Input} : input? a s = some input ↔ Chooses a s input := by
  constructor
  case mp =>
    intro h
    rw [input?] at h
    split at h
    case h_1 name hn =>
      obtain ⟨hn, hne⟩ := MemoFilter.given_eq_some_iff.mp hn
      cases h
      exact .argument hn hne
    case h_2 hn =>
      obtain ⟨p, hp, rfl⟩ := Option.map_eq_some_iff.mp h
      exact .settings (MemoFilter.given_eq_none_iff.mp hn) hp
  case mpr =>
    intro h
    rw [input?]
    cases h
    case argument hn hne  => rw [MemoFilter.given_eq_some_iff.mpr ⟨hn, hne⟩]
    case settings p hn hp => rw [MemoFilter.given_eq_none_iff.mpr hn, hp]; rfl

theorem input?_eq_none_iff : input? a s = none ↔ ∀ input, ¬Chooses a s input := by
  simp only [Option.eq_none_iff_forall_ne_some, ne_eq, input?_eq_some_iff]

theorem perform_of_ok (h : command a s shown ms = ⟨ps, .ok ()⟩) :
    perform a s shown ms = ⟨ps, .ok 0⟩ := by
  rw [perform, h, Console.bind_ok]
  simp only [pure, Console.pure, List.append_nil, Console.rescue_ok]

theorem perform_of_error {e : CommandError} (h : command a s shown ms = ⟨ps, .error e⟩) :
    perform a s shown ms = ⟨ps ++ (report e).prints, (report e).ending⟩ := by
  rw [perform, h, Console.bind_error, Console.rescue_error]

theorem report_of_ne {e : CommandError} (he : ∀ ds, e ≠ .query (.longNumeral ds)) :
    report e = ⟨[⟨.messages, message e.message⟩], .ok 1⟩ := by
  unfold report
  split
  case h_1 ds => exact absurd rfl (he ds)
  case h_2    => rfl

theorem ne_of_report {e : CommandError} (h : (report e).ending = .ok n) :
    ∀ ds, e ≠ .query (.longNumeral ds) := by
  rintro ds rfl
  contradiction

theorem runOn_of_reads {input : Input} (hi : Chooses a s input) (hr : d.Reads input.path ms js) :
    runOn d a s = ⟨told js ++ (perform a s input.shown ms).prints,
      (perform a s input.shown ms).ending⟩ := by
  obtain ⟨hm, rfl⟩ := Disk.readSheet_succeeds_iff.mpr hr
  rw [runOn, input?_eq_some_iff.mpr hi]
  simp only [hm, Console.printAll_eq, Console.bind_ok]
  rfl

theorem runOn_eq_ok_iff : runOn d a s = ⟨ps, .ok n⟩ ↔ Ends d a s ⟨n, ps⟩ := by
  constructor
  case mp =>
    intro h
    cases hi : input? a s
    case none =>
      rw [runOn, hi] at h
      cases h
      exact .noInput (input?_eq_none_iff.mp hi)
    case some input =>
      have hc := input?_eq_some_iff.mp hi
      cases hm : (d.readSheet input.path).memos
      case error e =>
        rw [runOn, hi] at h
        cases e
        case fault f p =>
          simp only [hm] at h
          cases h
          exact .unreadable hc hm
        all_goals
          simp only [hm] at h
          have := (Console.mk.inj h).right
          contradiction
      case ok ms =>
        have hr := Disk.readSheet_succeeds_iff.mp ⟨hm, rfl⟩
        rw [runOn_of_reads hc hr] at h
        rcases command_fails_or_shows a s input.shown ms with ⟨e, he⟩ | ⟨qs, _, hq, _⟩
        case inl =>
          rw [perform_of_error he] at h
          have hn := ne_of_report (Console.mk.inj h).right
          rw [report_of_ne hn] at h
          cases h
          exact .refused hc hr he hn
        case inr =>
          rw [perform_of_ok hq] at h
          cases h
          exact .written hc hr hq
  case mpr =>
    intro h
    cases h
    case noInput hi =>
      rw [runOn, input?_eq_none_iff.mpr hi]
      rfl
    case unreadable hi hm =>
      rw [runOn, input?_eq_some_iff.mpr hi]
      simp only [hm]
      rfl
    case refused hi hr hc he => rw [runOn_of_reads hi hr, perform_of_error hc, report_of_ne he]
    case written hi hr hc    => rw [runOn_of_reads hi hr, perform_of_ok hc]

theorem ofConsole_eq_finished_iff {x : Console Failure Nat} :
    Outcome.ofConsole x = .finished r ↔ x = ⟨r.prints, .ok r.status⟩ := by
  obtain ⟨ps, ending⟩ := x
  cases ending
  case error => simp [Outcome.ofConsole]
  case ok n  =>
    obtain ⟨n', ps'⟩ := r
    simp [Outcome.ofConsole, and_comm]

theorem run_eq_finished_iff {h : Host} :
    h.run d env words = .finished r ↔ ∃ a s, Begins h d env words a s ∧ Ends d a s r := by
  constructor
  case mp =>
    intro hr
    rw [Host.run] at hr
    cases ha : h.arguments words
    case error => simp [ha] at hr
    case ok a  =>
      cases hs : h.start d env a
      case error => simp [ha, hs] at hr
      case ok s  =>
        simp only [ha, hs, ofConsole_eq_finished_iff] at hr
        exact ⟨a, s, ⟨ha, hs⟩, runOn_eq_ok_iff.mp hr⟩
  case mpr =>
    intro ⟨a, s, hb, he⟩
    simp only [Host.run, hb.arguments, hb.settings, ofConsole_eq_finished_iff]
    exact runOn_eq_ok_iff.mpr he

end Run

section Ends

theorem prefix_message (t : Text) : "merula: ".toList <+: message t :=
  List.prefix_append _ _

theorem on_output_told : Print.on .output (told js) = [] :=
  Print.on_map

theorem on_messages_told : Print.on .messages (told js) = js.map fun j => message j.message :=
  Print.on_map

theorem Ends.status (h : Ends d a s r) : r.status = 0 ∨ r.status = 1 := by
  cases h <;> simp

theorem Ends.failure (h : Ends d a s r) (hr : r.status = 1) :
    r.output = [] ∧ r.messages ≠ [] ∧ ∀ t ∈ r.messages, "merula: ".toList <+: t := by
  cases h
  case written => contradiction
  case noInput | unreadable =>
    exact ⟨rfl, List.cons_ne_nil _ _, List.forall_mem_singleton.mpr (prefix_message _)⟩
  case refused input ms js ps e _ _ hc _ =>
    -- A command that fails has printed nothing.
    have hp : ps = [] := by
      rcases command_fails_or_shows a s input.shown ms with ⟨e, he⟩ | ⟨qs, _, hq, _⟩
      case inl => exact (Console.mk.inj (hc.symm.trans he)).left
      case inr => exact absurd (hc.symm.trans hq) (by simp)
    subst hp
    have hm : Result.messages ⟨1, told js ++ ([] ++ [⟨.messages, message e.message⟩])⟩ =
        (js.map fun j => message j.message) ++ [message e.message] := by
      simp [Result.messages, on_messages_told]
    rw [hm]
    refine ⟨by simp [Result.output, on_output_told], by simp, List.forall_mem_append.mpr ⟨?told, ?last⟩⟩
    case told => exact List.forall_mem_map.mpr fun j _ => prefix_message j.message
    case last => exact List.forall_mem_singleton.mpr (prefix_message _)

theorem Shows.output_told (h : Shows ps text) :
    Result.output ⟨0, told js ++ ps⟩ = text ++ ['\n'] := by
  rw [Result.output, Print.on_append, on_output_told, List.nil_append, h.output]

theorem Shows.messages_told (h : Shows ps text) :
    Result.messages ⟨0, told js ++ ps⟩ = js.map fun j => message j.message := by
  rw [Result.messages, Print.on_append, h.messages, List.append_nil, on_messages_told]

theorem ends_well_iff {out : Text} {lines : List Text} :
    (∃ r, Ends d a s r ∧ r.status = 0 ∧ r.output = out ∧ r.messages = lines) ↔
      ∃ input ms js f text, Chooses a s input ∧ d.Reads input.path ms js ∧
        MemoFilter.build ms (a.base?.getD s.base) a.filter? a.query? = .ok f ∧
        Writes a s input.shown ms f text ∧
        out = text ++ ['\n'] ∧ lines = js.map fun j => message j.message := by
  constructor
  case mp =>
    intro ⟨r, he, hs, ho, hm⟩
    cases he
    case noInput | unreadable | refused => contradiction
    case written input ms js ps hi hr hc =>
      rcases command_fails_or_shows a s input.shown ms with ⟨e, he⟩ | ⟨qs, text, hq, hs⟩
      case inl => exact absurd (hc.symm.trans he) (by simp)
      case inr =>
        cases hc.symm.trans hq
        obtain ⟨f, hf, hw⟩ := command_shows_iff.mp ⟨ps, hc, hs⟩
        exact ⟨input, ms, js, f, text, hi, hr, hf, hw, ho ▸ hs.output_told, hm ▸ hs.messages_told⟩
  case mpr =>
    intro ⟨input, ms, js, f, text, hi, hr, hf, hw, ho, hm⟩
    obtain ⟨ps, hc, hs⟩ := command_shows_iff.mpr ⟨f, hf, hw⟩
    exact ⟨_, .written hi hr hc, rfl, ho ▸ hs.output_told, hm ▸ hs.messages_told⟩

end Ends

-- A run that fails has written no part of a text, and one that succeeds has written all of it. It tells
-- which includes were rejected, in their order, and nothing else.
theorem Host.run_writes_all_or_nothing (h : Host) (d : Disk) (env : Environment)
    (words : List Text) :
    (∀ r, h.run d env words = .finished r →
      (r.status = 0 ∨ r.status = 1) ∧
      (r.status = 1 → r.output = [] ∧ r.messages ≠ [] ∧ ∀ t ∈ r.messages, "merula: ".toList <+: t)) ∧
    ∀ out lines,
      (∃ r, h.run d env words = .finished r ∧ r.status = 0 ∧ r.output = out ∧ r.messages = lines) ↔
        ∃ a s input ms js f text, Begins h d env words a s ∧ Chooses a s input ∧
          d.Reads input.path ms js ∧
          MemoFilter.build ms (a.base?.getD s.base) a.filter? a.query? = .ok f ∧
          Writes a s input.shown ms f text ∧
          out = text ++ ['\n'] ∧ lines = js.map fun j => "merula: ".toList ++ j.message := by
  simp only [run_eq_finished_iff]
  constructor
  case left => exact fun r ⟨a, s, _, he⟩ => ⟨he.status, he.failure⟩
  case right =>
    intro out lines
    constructor
    case mp =>
      intro ⟨r, ⟨a, s, hb, he⟩, hr⟩
      obtain ⟨input, ms, js, f, text, hx⟩ := ends_well_iff.mp ⟨r, he, hr⟩
      exact ⟨a, s, input, ms, js, f, text, hb, hx⟩
    case mpr =>
      intro ⟨a, s, input, ms, js, f, text, hb, hx⟩
      obtain ⟨r, he, hr⟩ := ends_well_iff.mpr ⟨input, ms, js, f, text, hx⟩
      exact ⟨r, ⟨a, s, hb, he⟩, hr⟩

-- A sheet that includes itself is listed and counted without that include, and the settings tell to
-- list all nodes. The lack of a template shows after the include has been rejected.
theorem Host.run_writes_all_or_nothing_include :
    let sheet : Path := ⟨['/'], [['r'], ['m']]⟩
    let text := "@mr:include m\n@a t\n.k 2\n.j 3\n@b u\n.k 1".toList
    let settings := "output.verbosity = 2".toList
    let d : Disk := ⟨⟨['/'], [['r']]⟩, [(sheet.parts, .file (Text.utf8 text)),
      ([['r'], "merula.toml".toList], .file (Text.utf8 settings))]⟩
    let h := Host.standard .newer
    let listed := ["list", "m", "--mql", "k>1"].map String.toList
    let counted := ["stats", "m"].map String.toList
    let exported := ["export", "--template=--", "m"].map String.toList
    let line := message (Rejection.message ⟨⟨[], [['m']]⟩, [sheet], .recursive⟩)
    let Succeeds (words : List Text) (out : Text) : Prop :=
      ∃ a s input ms js f text, Begins h d {} words a s ∧ Chooses a s input ∧
        d.Reads input.path ms js ∧
        MemoFilter.build ms (a.base?.getD s.base) a.filter? a.query? = .ok f ∧
        Writes a s input.shown ms f text ∧
        out = text ++ ['\n'] ∧ [line] = js.map fun j => "merula: ".toList ++ j.message
    Succeeds listed "@a t\n.k 2\n.j 3\n\n".toList ∧
      Succeeds counted "Statistics for 'm':\n#Memos = 2\n#Nodes = 5\n".toList ∧
      ∃ r, h.run d {} exported = .finished r ∧ r.status = 1 ∧ r.output = [] ∧
        r.messages = [line, message "template '--' not found".toList] ∧
        ∀ t ∈ r.messages, "merula: ".toList <+: t := by
  intro sheet text settings d h listed counted exported line Succeeds
  have hl : h.run d {} listed =
      .finished ⟨0, [⟨.messages, line⟩, ⟨.output, "@a t\n.k 2\n.j 3\n".toList⟩]⟩ := by
    decide +kernel
  have hc : h.run d {} counted =
      .finished ⟨0, [⟨.messages, line⟩, ⟨.output, "Statistics for 'm':".toList⟩,
        ⟨.output, "#Memos = 2".toList⟩, ⟨.output, "#Nodes = 5".toList⟩]⟩ := by
    decide +kernel
  have he : h.run d {} exported =
      .finished ⟨1, [⟨.messages, line⟩, ⟨.messages, message "template '--' not found".toList⟩]⟩ := by
    decide +kernel
  refine ⟨?listed, ?counted, ?exported⟩
  case listed =>
    exact (run_writes_all_or_nothing h d {} listed).right _ _ |>.mp ⟨_, hl, rfl, rfl, rfl⟩
  case counted =>
    exact (run_writes_all_or_nothing h d {} counted).right _ _ |>.mp ⟨_, hc, rfl, rfl, rfl⟩
  case exported =>
    have hr := (run_writes_all_or_nothing h d {} exported).left _ he
    exact ⟨_, he, rfl, (hr.right rfl).left, rfl, (hr.right rfl).right.right⟩

end CommandLine
end MemoBase
