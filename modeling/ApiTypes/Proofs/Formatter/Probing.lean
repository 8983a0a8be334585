import ApiTypes.Proofs.Formatter.Fallback
import ApiTypes.Proofs.Value.SameKey

/-!
# A command is probed once

One formatter is asked again and again, with settings that may differ from call to call: whether a
command can be used, or to format code. Each call is an event of a session
(`ApiTypes.Formatter.Event`), and what it has started is read off the session before and after it,
with what has become of each start (`ApiTypes.Formatter.Event.made`).

Commands are the same if their words are the same as keys (`ApiTypes.Formatter.sameWords_trans`);
commands of strings are the same if they are equal (`ApiTypes.Formatter.sameWords_map_str`).

A probe that is permitted is a finished one, and its answer is remembered. What is remembered after
some events is given by their finished probes, and these are of different commands
(`ApiTypes.Formatter.Remembers`): an event adds one only if there is none of its command. So the
answers are those of the finished probes, whatever is asked in between
(`ApiTypes.Formatter.probed_once`).

| part | what it says |
|---|---|
| `ApiTypes.Formatter.Event.goes` | the ways in which one call can go |
| `ApiTypes.Formatter.Event.remembers_after` | what one call adds to what is remembered |
| `ApiTypes.Formatter.remembers_of_trace` | what is remembered when a call begins |
-/

namespace ApiTypes.Formatter

open Session

/-! ### The same command -/

theorem sameWords_comm {c d : List Value} (h : sameWords c d) : sameWords d c := by
  induction c generalizing d with
  | nil =>
    cases d with
    | nil => rfl
    | cons w d => exact nomatch h
  | cons v c ih =>
    cases d with
    | nil => exact nomatch h
    | cons w d =>
      simp only [sameWords, Bool.and_eq_true] at h ⊢
      exact ⟨Value.sameKey_comm h.1, ih h.2⟩

theorem sameWords_trans {b c d : List Value} (h : sameWords b c) (h' : sameWords c d) :
    sameWords b d := by
  induction b generalizing c d with
  | nil =>
    cases c with
    | nil => exact h'
    | cons v c => exact nomatch h
  | cons u b ih =>
    cases c with
    | nil => exact nomatch h
    | cons v c =>
      cases d with
      | nil => exact nomatch h'
      | cons w d =>
        simp only [sameWords, Bool.and_eq_true] at h h' ⊢
        exact ⟨Value.sameKey_trans h.1 h'.1, ih h.2 h'.2⟩

/-- Commands of strings are the same if they are equal. -/
theorem sameWords_map_str {c d : List String} :
    sameWords (c.map .str) (d.map .str) ↔ c = d := by
  induction c generalizing d with
  | nil => cases d <;> simp [sameWords]
  | cons v c ih => cases d <;> simp [sameWords, ih]

/-! ### Events -/

/-- **A call of a formatter.** -/
inductive Request where
  /-- Whether a command can be used. -/
  | available (settings : Settings)
  /-- Formatting code, with the files that there are and the working directory. -/
  | format (tree : FileTree) (directory : Text) (settings : Settings) (code : Text)

/-- The settings of a call. -/
def Request.settings : Request → Settings
  | .available settings => settings
  | .format _ _ settings _ => settings

/-- The session after a call. -/
def Request.perform : Request → Session → Session
  | .available settings, s => ((Formatter.available settings).run s).2
  | .format tree directory settings code, s =>
    ((Formatter.format tree directory settings code).run s).2

/-- **A call in a session.** -/
structure Event where
  /-- The session before it. -/
  before : Session
  /-- The call. -/
  request : Request

namespace Event

/-- The command that is asked about, if it can be remembered by. -/
def command? (e : Event) : Option (List Value) := usable? e.request.settings

/-- The session after a call. -/
def after (e : Event) : Session := e.request.perform e.before

/-- The answer to whether the command can be used, if there is one. -/
def answer? (e : Event) : Option Bool :=
  ((available e.request.settings).run e.before).1.toOption

/-- What is started by a call, in its order. -/
def starts (e : Event) : List Start :=
  (e.after.starts.take (e.after.starts.length - e.before.starts.length)).reverse

/-- **The starts of a call and what becomes of them.** Where no outcome is left, a command does not
exist. -/
def made (e : Event) : List (Start × Outcome) :=
  e.starts.zip (e.before.outcomes ++ List.replicate e.starts.length .missing)

/-- The starts that are sent nothing: these probe a command. -/
def probes (e : Event) : List (Start × Outcome) := e.made.filter fun m => m.1.input.isNone

/-- The starts that are sent code. -/
def runs (e : Event) : List (Start × Outcome) := e.made.filter fun m => m.1.input.isSome

/-- **The finished probes of a call**: the commands, and what has become of them. A probe that is
not permitted does not finish. -/
def finished (e : Event) : List (List Value × Outcome) :=
  (e.probes.filter fun m => m.2 ≠ .notPermitted).map fun m => (m.1.words.dropLast, m.2)

end Event

/-- **The events of some calls**, one after the other. -/
def trace : Session → List Request → List Event
  | _, [] => []
  | s, r :: rest => ⟨s, r⟩ :: trace (r.perform s) rest

/-- The finished probes of some events, in their order. -/
def finished (events : List Event) : List (List Value × Outcome) :=
  events.flatMap Event.finished

/-! ### How a call goes -/

/-- **What comes after the answer**: nothing is started, or the command is started once and is sent
code. Messages may be logged. -/
inductive Sends (command : List Value) (usable : Bool) (s : Session) : Session → Prop
  /-- Nothing is started. -/
  | nothing {messages : List Log.Message} : Sends command usable s { s with messages := messages }
  /-- The command is started and is sent code. -/
  | once {start : Start} {messages : List Log.Message} : usable = true → start.input.isSome →
      command <+: start.words →
      Sends command usable s { s.started start with messages := messages }

/-- **The ways in which a call can go**, with its answer and the session after it. -/
inductive Goes (command : List Value) (s : Session) : Option Bool → Session → Prop
  /-- The answer is known. -/
  | known {answer : Bool} {t : Session} : probed? s command = some answer →
      Sends command answer s t → Goes command s (some answer) t
  /-- The probe is not permitted. -/
  | refused : probed? s command = none → s.next = .notPermitted →
      Goes command s none (s.started (probe command))
  /-- The probe gives an answer. -/
  | probed {t : Session} : probed? s command = none → s.next ≠ .notPermitted →
      Sends command s.next.succeeds
        ((s.started (probe command)).answered command s.next.succeeds) t →
      Goes command s (some s.next.succeeds) t

section Finish

variable {tree : FileTree} {directory : Text} {settings : Settings} {command : List Value}
  {code : Text}

/-- What formatting does after the answer. -/
def finish (tree : FileTree) (directory : Text) (settings : Settings) (code : Text)
    (usable : Bool) : Work Text := do
  let command ← words settings.command
  if usable then send tree directory settings command code
  else
    let texts ← line 0 command
    warn ("prettier is not available (".toList ++ Text.join [' '] texts ++
      "), leaving output unformatted".toList)
    return code

theorem format_eq_finish :
    format tree directory settings code =
      available settings >>= finish tree directory settings code := by
  unfold format
  refine congrArg (available settings >>= ·) (funext fun usable => ?_)
  cases usable <;> rfl

theorem sends_send (s : Session) :
    Sends command true s ((send tree directory settings command code).run s).2 := by
  unfold send
  rw [run_bind]
  cases hconfig : configTrouble? tree directory settings with
  | some e =>
    rw [run_configWords_of_some hconfig]
    exact .nothing
  | none =>
    obtain ⟨config, more, hwords⟩ := run_configWords_of_none hconfig s
    rw [hwords]
    dsimp only
    rw [run_bind, run_start]
    have honce : ∀ messages, Sends command true s
        { s.started ⟨command ++ formatWords settings ++ config, some code, 60⟩ with
          messages := messages } := fun messages =>
      .once rfl rfl ((List.prefix_append _ _).trans (List.prefix_append _ _))
    cases ({ s with messages := more ++ s.messages } : Session).next with
    | «exit» number output errors =>
      by_cases hzero : number = 0
      · dsimp only
        rw [if_pos hzero]
        exact honce _
      · dsimp only
        rw [if_neg hzero]
        exact honce _
    | _ => exact honce _

theorem sends_finish (h : usable? settings = some command) (usable : Bool) (s : Session) :
    Sends command usable s ((finish tree directory settings code usable).run s).2 := by
  obtain ⟨hwords, -⟩ := usable?_eq_some_iff.1 h
  rw [finish, hwords, run_bind, run_liftM_ok]
  cases usable with
  | true => exact sends_send s
  | false =>
    change Sends command false s (((liftM (line 0 command) : Work (List Text)) >>= _).run s).2
    rw [run_bind]
    cases line 0 command with
    | error e => exact .nothing
    | ok texts => exact .nothing

end Finish

/-- A call with a command that can be remembered by goes in one of these ways. -/
theorem Event.goes {e : Event} {command : List Value} (h : e.command? = some command) :
    Goes command e.before e.answer? e.after := by
  obtain ⟨s, request⟩ := e
  -- both calls begin with the question whether the command can be used
  have hafter : (∃ e, ((available request.settings).run s).1 = .error e ∧
      request.perform s = ((available request.settings).run s).2) ∨
      ∃ usable, ((available request.settings).run s).1 = .ok usable ∧
        Sends command usable ((available request.settings).run s).2 (request.perform s) := by
    cases request with
    | available settings =>
      cases hanswer : ((available settings).run s).1 with
      | error e => exact .inl ⟨e, hanswer, rfl⟩
      | ok usable => exact .inr ⟨usable, hanswer, .nothing⟩
    | format tree directory settings code =>
      rw [Request.perform, format_eq_finish, run_bind]
      rcases hrun : (available settings).run s with ⟨_ | usable, t⟩
      · exact .inl ⟨_, by rw [Request.settings, hrun], by rw [Request.settings, hrun]⟩
      · rw [Request.settings, hrun]
        exact .inr ⟨usable, rfl, sends_finish h usable t⟩
  unfold Event.answer? Event.after
  dsimp only at h ⊢
  cases hprobed : probed? s command with
  | some answer =>
    rw [run_available_of_some h hprobed] at hafter ⊢
    rcases hafter with ⟨e, he, -⟩ | ⟨usable, husable, hsends⟩
    · exact nomatch he
    · obtain rfl : answer = usable := Except.ok.inj husable
      exact .known hprobed hsends
  | none =>
    rw [run_available_of_none h hprobed] at hafter ⊢
    dsimp only at hafter ⊢
    by_cases hnext : s.next = .notPermitted
    · rw [if_pos hnext] at hafter ⊢
      rcases hafter with ⟨e, -, hsame⟩ | ⟨usable, husable, -⟩
      · rw [hsame]
        exact .refused hprobed hnext
      · exact nomatch husable
    · rw [if_neg hnext] at hafter ⊢
      rcases hafter with ⟨e, he, -⟩ | ⟨usable, husable, hsends⟩
      · exact nomatch he
      · obtain rfl : s.next.succeeds = usable := Except.ok.inj husable
        exact .probed hprobed hnext hsends

/-- A call with any other command starts nothing and gives no answer. -/
theorem Event.of_unusable {e : Event} (h : e.command? = none) :
    e.after = e.before ∧ e.answer? = none := by
  obtain ⟨s, request⟩ := e
  obtain ⟨err, hrun⟩ := run_available_of_unusable h s
  have hanswer : (Event.mk s request).answer? = none := by rw [Event.answer?, hrun]; rfl
  refine ⟨?_, hanswer⟩
  cases request with
  | available settings => exact congrArg Prod.snd hrun
  | format tree directory settings code =>
    rw [Event.after, Request.perform, format_eq_finish, run_bind]
    rw [Request.settings] at hrun
    rw [hrun]

/-! ### What a call starts -/

namespace Event

variable {e : Event} {command : List Value}

theorem made_of_starts {new : List Start} (h : e.after.starts = new.reverse ++ e.before.starts) :
    e.made = new.zip (e.before.outcomes ++ List.replicate new.length .missing) := by
  have hstarts : e.starts = new := by
    rw [starts, h, List.length_append, Nat.add_sub_cancel, List.take_left, List.reverse_reverse]
  rw [made, hstarts]

/-- A call that starts nothing. -/
theorem made_of_none (h : e.after.starts = e.before.starts) : e.made = [] :=
  @made_of_starts e [] h

/-- A call that starts one command. -/
theorem made_of_one {start : Start} (h : e.after.starts = start :: e.before.starts) :
    e.made = [(start, e.before.next)] := by
  rw [@made_of_starts e [start] h, next]
  cases e.before.outcomes <;> rfl

/-- A call that starts two commands. -/
theorem made_of_two {first second : Start}
    (h : e.after.starts = second :: first :: e.before.starts) :
    e.made = [(first, e.before.next), (second, (e.before.started first).next)] := by
  rw [@made_of_starts e [first, second] h, next, next, started]
  match e.before.outcomes with
  | [] => rfl
  | [_] => rfl
  | _ :: _ :: _ => rfl

/-- **What a call does with a command**: it is probed if no answer is known, and it is sent code
only if it can be used. -/
structure Handles (e : Event) (command : List Value) : Prop where
  /-- A known answer is given, and nothing is probed. -/
  known : ∀ answer, probed? e.before command = some answer →
    e.probes = [] ∧ e.answer? = some answer ∧ e.after.probes = e.before.probes
  /-- Otherwise the command is probed. If this is not permitted, there is no answer. -/
  refused : probed? e.before command = none → e.before.next = .notPermitted →
    e.probes = [(probe command, .notPermitted)] ∧ e.answer? = none ∧
      e.after.probes = e.before.probes
  /-- If it is, the answer is that of the probe, and it is remembered. -/
  probed : probed? e.before command = none → e.before.next ≠ .notPermitted →
    e.probes = [(probe command, e.before.next)] ∧ e.answer? = some e.before.next.succeeds ∧
      e.after.probes = (command, e.before.next.succeeds) :: e.before.probes
  /-- What is sent code is the command, and it can be used. -/
  runs : ∀ m ∈ e.runs, e.answer? = some true ∧ command <+: m.1.words

theorem handles (h : e.command? = some command) : e.Handles command := by
  obtain ⟨answer?, t, hgoes, hanswer, ht⟩ :
      ∃ answer? t, Goes command e.before answer? t ∧ e.answer? = answer? ∧ e.after = t :=
    ⟨_, _, goes h, rfl, rfl⟩
  cases hgoes with
  | @known answer t hprobed hsends =>
    have hmade : e.probes = [] ∧ e.after.probes = e.before.probes ∧
        ∀ m ∈ e.runs, answer = true ∧ command <+: m.1.words := by
      cases hsends with
      | nothing =>
        have hmade := made_of_none (congrArg Session.starts ht :)
        exact ⟨by simp [probes, hmade], (congrArg Session.probes ht :), by simp [runs, hmade]⟩
      | once husable hinput hwords =>
        have hmade := made_of_one (congrArg Session.starts ht)
        obtain ⟨code, hcode⟩ := Option.isSome_iff_exists.1 hinput
        exact ⟨by simp [probes, hmade, hcode], (congrArg Session.probes ht :),
          by simp [runs, hmade, hcode, husable, hwords]⟩
    obtain ⟨hprobes, hafter, hruns⟩ := hmade
    exact
      { known := fun answer' hanswer' =>
          ⟨hprobes, hanswer.trans (hprobed.symm.trans hanswer'), hafter⟩
        refused := fun hnone => nomatch hprobed.symm.trans hnone
        probed := fun hnone => nomatch hprobed.symm.trans hnone
        runs := fun m hm => ⟨hanswer.trans (congrArg some (hruns m hm).1), (hruns m hm).2⟩ }
  | refused hprobed hnext =>
    have hmade := made_of_one (congrArg Session.starts ht)
    exact
      { known := fun answer hanswer => nomatch hprobed.symm.trans hanswer
        refused := fun _ _ => ⟨by simp [probes, hmade, probe, hnext], hanswer,
          (congrArg Session.probes ht :)⟩
        probed := fun _ hnot => absurd hnext hnot
        runs := by simp [runs, hmade, probe] }
  | probed hprobed hnext hsends =>
    have hmade : e.probes = [(probe command, e.before.next)] ∧
        e.after.probes = (command, e.before.next.succeeds) :: e.before.probes ∧
        ∀ m ∈ e.runs, e.before.next.succeeds = true ∧ command <+: m.1.words := by
      cases hsends with
      | nothing =>
        have hmade := made_of_one (congrArg Session.starts ht)
        exact ⟨by simp [probes, hmade, probe], (congrArg Session.probes ht :),
          by simp [runs, hmade, probe]⟩
      | once husable hinput hwords =>
        have hmade := made_of_two (congrArg Session.starts ht)
        obtain ⟨code, hcode⟩ := Option.isSome_iff_exists.1 hinput
        exact ⟨by simp [probes, hmade, probe, hcode], (congrArg Session.probes ht :),
          by simp [runs, hmade, probe, hcode, husable, hwords]⟩
    obtain ⟨hprobes, hafter, hruns⟩ := hmade
    exact
      { known := fun answer hanswer => nomatch hprobed.symm.trans hanswer
        refused := fun _ hnot => absurd hnot hnext
        probed := fun _ _ => ⟨hprobes, hanswer, hafter⟩
        runs := fun m hm => ⟨hanswer.trans (congrArg some (hruns m hm).1), (hruns m hm).2⟩ }

end Event

/-! ### What is remembered -/

/-- **The answers that are remembered** are those of some finished probes, which are of different
commands. -/
structure Remembers (known : List (List Value × Outcome)) (s : Session) : Prop where
  /-- The latest answer comes first. -/
  probes : s.probes = (known.map fun p => (p.1, p.2.succeeds)).reverse
  /-- No command is there twice. -/
  distinct : known.Pairwise fun p q => ¬sameWords p.1 q.1

variable {known : List (List Value × Outcome)} {s : Session} {command : List Value}

namespace Remembers

/-- A command with a finished probe has its answer. -/
theorem probed?_of_mem (h : Remembers known s) {p : List Value × Outcome} (hp : p ∈ known)
    (hsame : sameWords p.1 command) : probed? s command = some p.2.succeeds := by
  have hsymm : Std.Symm fun p q : List Value × Outcome => ¬sameWords p.1 q.1 :=
    ⟨fun p q hnot hpq => hnot (sameWords_comm hpq)⟩
  have honly : ∀ q ∈ known, sameWords q.1 command → q = p := fun q hq hqsame =>
    Classical.byContradiction fun hne =>
      h.distinct.forall hq hp hne (sameWords_trans hqsame (sameWords_comm hsame))
  have hmem : ∀ {a}, a ∈ s.probes ↔ ∃ q ∈ known, (q.1, q.2.succeeds) = a := by
    simp [h.probes]
  cases hfind : s.probes.find? fun a => sameWords a.1 command with
  | none =>
    have hnone := List.find?_eq_none.1 hfind _ (hmem.2 ⟨p, hp, rfl⟩)
    exact absurd hsame hnone
  | some a =>
    obtain ⟨q, hq, rfl⟩ := hmem.1 (List.mem_of_find?_eq_some hfind)
    have hqsame := List.find?_some hfind
    obtain rfl := honly q hq hqsame
    rw [probed?, hfind]
    rfl

/-- A command without one has none. -/
theorem probed?_eq_none (h : Remembers known s) (hnone : ∀ p ∈ known, ¬sameWords p.1 command) :
    probed? s command = none := by
  rw [probed?, h.probes, Option.map_eq_none_iff, List.find?_eq_none]
  intro a ha
  obtain ⟨p, hp, rfl⟩ := List.mem_map.1 (List.mem_reverse.1 ha)
  exact hnone p hp

/-- Either there is one, or there is none. -/
theorem cases_probed? (h : Remembers known s) (command : List Value) :
    (∃ p ∈ known, sameWords p.1 command ∧ probed? s command = some p.2.succeeds) ∨
      (∀ p ∈ known, ¬sameWords p.1 command) ∧ probed? s command = none := by
  by_cases hex : ∃ p ∈ known, sameWords p.1 command
  · obtain ⟨p, hp, hsame⟩ := hex
    exact .inl ⟨p, hp, hsame, h.probed?_of_mem hp hsame⟩
  · have hnone : ∀ p ∈ known, ¬sameWords p.1 command := fun p hp hsame => hex ⟨p, hp, hsame⟩
    exact .inr ⟨hnone, h.probed?_eq_none hnone⟩

end Remembers

/-- **A call adds its finished probe** to what is remembered, if it has one. -/
theorem Event.remembers_after {e : Event} (h : Remembers known e.before) :
    Remembers (known ++ e.finished) e.after := by
  cases hcommand : e.command? with
  | none =>
    obtain ⟨hafter, -⟩ := e.of_unusable hcommand
    have hfinished : e.finished = [] := by
      rw [Event.finished, Event.probes, made_of_none (congrArg Session.starts hafter)]
      rfl
    rwa [hfinished, List.append_nil, hafter]
  | some command =>
    have hhandles := handles hcommand
    rcases h.cases_probed? command with ⟨p, -, -, hprobed⟩ | ⟨hnone, hprobed⟩
    · obtain ⟨hprobes, -, hafter⟩ := hhandles.known _ hprobed
      have hfinished : e.finished = [] := by rw [Event.finished, hprobes]; rfl
      rw [hfinished, List.append_nil]
      exact ⟨hafter.trans h.probes, h.distinct⟩
    · by_cases hnext : e.before.next = .notPermitted
      · obtain ⟨hprobes, -, hafter⟩ := hhandles.refused hprobed hnext
        have hfinished : e.finished = [] := by rw [Event.finished, hprobes]; rfl
        rw [hfinished, List.append_nil]
        exact ⟨hafter.trans h.probes, h.distinct⟩
      · obtain ⟨hprobes, -, hafter⟩ := hhandles.probed hprobed hnext
        have hfinished : e.finished = [(command, e.before.next)] := by
          simp [Event.finished, hprobes, hnext, probe]
        rw [hfinished]
        refine ⟨by simp [hafter, h.probes], List.pairwise_append.2 ⟨h.distinct, by simp, ?_⟩⟩
        intro p hp q hq
        obtain rfl := List.mem_singleton.1 hq
        exact hnone p hp

/-! ### All calls -/

theorem finished_cons (e : Event) (events : List Event) :
    finished (e :: events) = e.finished ++ finished events := List.flatMap_cons

/-- **What is remembered when a call begins** is what has been remembered, and the finished probes
since. -/
theorem remembers_of_trace {requests : List Request} {front behind : List Event} {e : Event}
    (h : Remembers known s) (htrace : trace s requests = front ++ e :: behind) :
    Remembers (known ++ finished front) e.before := by
  induction requests generalizing known s front with
  | nil => simp [trace] at htrace
  | cons r rest ih =>
    rw [trace] at htrace
    cases front with
    | nil =>
      obtain ⟨rfl, -⟩ := List.cons.inj htrace
      rw [finished, List.flatMap_nil, List.append_nil]
      exact h
    | cons first front =>
      obtain ⟨rfl, hrest⟩ := List.cons.inj htrace
      rw [finished_cons, ← List.append_assoc]
      exact ih (Event.remembers_after (e := ⟨s, r⟩) h) hrest

/-- The finished probes of all calls are of different commands. -/
theorem distinct_finished (h : Remembers known s) (requests : List Request) :
    (known ++ finished (trace s requests)).Pairwise fun p q => ¬sameWords p.1 q.1 := by
  induction requests generalizing known s with
  | nil => simpa [trace, finished] using h.distinct
  | cons r rest ih =>
    rw [trace, finished_cons, ← List.append_assoc]
    exact ih (Event.remembers_after (e := ⟨s, r⟩) h)

/-- **A command is probed once.** Whatever becomes of the starts and whatever is asked for, no two
finished probes are of one command. A command that has a finished probe is not probed again, and the
answer about it is whether that probe has ended with zero. Any other command is probed, and the
answer about it is that of the probe, if it is permitted. What is sent code is a command whose
answer is that it can be used, and a command that cannot be remembered by is not started. -/
theorem probed_once (outcomes : List Outcome) (requests : List Request) :
    let events := trace { outcomes := outcomes } requests
    (finished events).Pairwise (fun p q => ¬sameWords p.1 q.1) ∧
      ∀ (front behind : List Event) (e : Event), events = front ++ e :: behind →
        (e.command? = none → e.made = [] ∧ e.answer? = none) ∧
        ∀ command, e.command? = some command →
          (∀ p ∈ finished front, sameWords p.1 command →
            e.probes = [] ∧ e.answer? = some p.2.succeeds) ∧
          ((∀ p ∈ finished front, ¬sameWords p.1 command) → ∃ outcome,
            e.probes = [(probe command, outcome)] ∧
              e.answer? = if outcome = .notPermitted then none else some outcome.succeeds) ∧
          ∀ m ∈ e.runs, e.answer? = some true ∧ command <+: m.1.words := by
  intro events
  have hbegin : Remembers [] { outcomes := outcomes } := ⟨rfl, .nil⟩
  refine ⟨distinct_finished hbegin requests, fun front behind e htrace => ⟨fun hnone => ?_,
    fun command hcommand => ?_⟩⟩
  · obtain ⟨hafter, hanswer⟩ := Event.of_unusable hnone
    exact ⟨Event.made_of_none (congrArg Session.starts hafter), hanswer⟩
  · have hremembers := remembers_of_trace hbegin htrace
    have hhandles := Event.handles hcommand
    refine ⟨fun p hp hsame => ?_, fun hnone => ?_, hhandles.runs⟩
    · obtain ⟨hprobes, hanswer, -⟩ := hhandles.known _ (hremembers.probed?_of_mem hp hsame)
      exact ⟨hprobes, hanswer⟩
    · have hprobed := hremembers.probed?_eq_none hnone
      by_cases hnext : e.before.next = .notPermitted
      · obtain ⟨hprobes, hanswer, -⟩ := hhandles.refused hprobed hnext
        exact ⟨_, hprobes, hanswer⟩
      · obtain ⟨hprobes, hanswer, -⟩ := hhandles.probed hprobed hnext
        exact ⟨_, hprobes, by rw [if_neg hnext, hanswer]⟩

/-- A command that is not permitted at first, and then can be used, with another one in between: the
third call probes again, and the fifth one does not. -/
example :
    let ask (word : String) : Request := .available { command := .list [.str word] }
    let events := trace { outcomes := [.notPermitted, .exit 1 [] [], .exit 0 [] []] }
      [ask "prettier", ask "npx", ask "prettier", ask "npx", ask "prettier"]
    events.map (fun e => e.answer?) = [none, some false, some true, some false, some true] ∧
      events.map (fun e => e.made.length) = [1, 1, 1, 0, 0] := by
  decide +kernel

end ApiTypes.Formatter
