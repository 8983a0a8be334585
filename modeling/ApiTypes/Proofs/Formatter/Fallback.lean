import ApiTypes.Generation
import ApiTypes.Proofs.Failing

/-!
# Formatting when the formatter fails

Code is sent through the formatter by at most two starts of its command: one that probes the
command, unless the answer is known, and one that formats. What becomes of them is given from
outside, so what formatting does is told for whatever becomes of them.

Formatting falls back (`ApiTypes.Formatter.FallsBack`): it gives what a start that was sent the
code has printed and that has ended with zero, or the code as it is with a warning. There are a
few ways out of this, and `ApiTypes.Formatter.Breaks` lists them: either start may not be
permitted, the one that formats may find that the command is gone, and there may be a path of
a settings file that cannot be asked for. `ApiTypes.Formatter.fallsBack_iff` says that these
are all, for formatting and for the generation of a module with it. A command that is gone at
its probe is dealt with, and one that may not be started is not
(`ApiTypes.Formatter.not_fallsBack_notPermitted`).
-/

namespace ApiTypes.Formatter

variable {tree : FileTree} {directory : Text} {settings : Settings} {command : List String}
  {code : Text} {s t : Session}

/-! ### Sessions -/

/-- Whether a start has ended with zero. -/
def Outcome.succeeds : Outcome → Bool
  | .exit code _ _ => code = 0
  | _ => false

namespace Session

/-- What happens at the next start. -/
def next (s : Session) : Outcome := s.outcomes.headD .missing

/-- The session after a start. -/
def started (s : Session) (start : Start) : Session :=
  { s with outcomes := s.outcomes.tail, starts := start :: s.starts }

/-- The session with the answer of a probe. -/
def answered (s : Session) (command : List Value) (answer : Bool) : Session :=
  { s with probes := (command, answer) :: s.probes }

/-- The session after a warning of the formatter. -/
def warned (s : Session) (text : Text) : Session :=
  { s with messages := ⟨.warning, .formatter, text⟩ :: s.messages }

/-- **A session goes on**: outcomes are used up from the front, and messages are added. -/
structure GoesOn (s t : Session) : Prop where
  /-- The outcomes that are left are the last ones. -/
  outcomes : t.outcomes <:+ s.outcomes
  /-- The messages stay. -/
  messages : s.messages <:+ t.messages

theorem GoesOn.refl (s : Session) : GoesOn s s := ⟨List.suffix_rfl, List.suffix_rfl⟩

theorem GoesOn.trans {u : Session} (h : GoesOn s t) (h' : GoesOn t u) : GoesOn s u :=
  ⟨h'.outcomes.trans h.outcomes, h.messages.trans h'.messages⟩

theorem goesOn_started (s : Session) (start : Start) : GoesOn s (s.started start) :=
  ⟨List.tail_suffix _, List.suffix_rfl⟩

theorem goesOn_answered (s : Session) (command : List Value) (answer : Bool) :
    GoesOn s (s.answered command answer) :=
  ⟨List.suffix_rfl, List.suffix_rfl⟩

end Session

open Session

theorem run_bind {α β : Type} (x : Work α) (f : α → Work β) (s : Session) :
    (x >>= f).run s =
      match x.run s with
      | (.ok a, t) => (f a).run t
      | (.error e, t) => (.error e, t) := by
  rw [run_bind_kept]
  obtain ⟨r, t⟩ := x.run s
  cases r <;> rfl

theorem run_bind_eq_ok {α β : Type} {x : Work α} {f : α → Work β} {s t : Session} {b : β}
    (h : (x >>= f).run s = (.ok b, t)) :
    ∃ a u, x.run s = (.ok a, u) ∧ (f a).run u = (.ok b, t) :=
  run_bind_kept_eq_ok h

theorem run_start (words : List Value) (input : Option Text) (seconds : Nat) (s : Session) :
    (start words input seconds).run s = (.ok s.next, s.started ⟨words, input, seconds⟩) := by
  obtain ⟨outcomes, starts, messages, probes⟩ := s
  cases outcomes <;> rfl

/-! ### Falling back -/

/-- A start that was sent the code has ended with zero, and it has printed `r`. -/
def Printed (code r : Text) (s s' : Session) : Prop :=
  ∃ t start errors, GoesOn s t ∧ t.next = .exit 0 r errors ∧ start.input = some code ∧
    s' = t.started start

/-- The code is kept, and a warning is logged. -/
def Kept (code r : Text) (s s' : Session) : Prop :=
  r = code ∧ ∃ t text, GoesOn s t ∧ s' = t.warned text

/-- **Falling back**: there is a result, which is what the formatter has printed, or the code
itself. -/
def FallsBack (code : Text) (s : Session) (w : Except Failure Text × Session) : Prop :=
  ∃ r, w.1 = .ok r ∧ (Printed code r s w.2 ∨ Kept code r s w.2)

theorem not_fallsBack_error (e : Failure) (t : Session) : ¬FallsBack code s (.error e, t) := by
  rintro ⟨r, hr, -⟩
  exact absurd hr (by simp)

/-! ### The probe -/

/-- The start that probes a command. -/
def probe (command : List Value) : Start := ⟨command ++ [.str "--version"], none, 30⟩

/-- The command of some settings, if it can be remembered by. -/
def usable? (settings : Settings) : Option (List Value) :=
  match words settings.command with
  | .ok command => if command.all keyable then some command else none
  | .error _ => none

theorem usable?_eq_some_iff {command : List Value} :
    usable? settings = some command ↔
      words settings.command = .ok command ∧ ∀ v ∈ command, keyable v := by
  unfold usable?
  cases words settings.command with
  | error e => simp
  | ok c =>
    simp only [Option.ite_none_right_eq_some, List.all_eq_true, Option.some.injEq, Except.ok.injEq]
    constructor
    · rintro ⟨hkeyable, rfl⟩
      exact ⟨rfl, hkeyable⟩
    · rintro ⟨rfl, hkeyable⟩
      exact ⟨hkeyable, rfl⟩

/-- A command of strings can be remembered by. -/
theorem usable?_of_strings (h : settings.command = .list (command.map .str)) :
    usable? settings = some (command.map .str) := by
  refine usable?_eq_some_iff.2 ⟨by rw [h]; rfl, fun v hv => ?_⟩
  obtain ⟨word, -, rfl⟩ := List.mem_map.1 hv
  rfl

theorem find?_keyable {command : List Value} (h : ∀ v ∈ command, keyable v) :
    command.find? (fun v => !keyable v) = none := by
  rw [List.find?_eq_none]
  exact fun v hv => by simp [h v hv]

theorem run_get (s : Session) : (get : Work Session).run s = (.ok s, s) := rfl

theorem run_liftM_ok {α : Type} (a : α) (s : Session) :
    (liftM (Except.ok a : Except Failure α) : Work α).run s = (.ok a, s) := rfl

/-- Any other command is refused at once. -/
theorem run_available_of_unusable (h : usable? settings = none) (s : Session) :
    ∃ e, (available settings).run s = (.error e, s) := by
  unfold usable? at h
  unfold available
  cases hwords : words settings.command with
  | error e => exact ⟨e, rfl⟩
  | ok command =>
    rw [run_bind, run_liftM_ok]
    cases hfind : command.find? (fun v => !keyable v) with
    | some v => exact ⟨.unhashable v.kind, by simp only [hfind]; rfl⟩
    | none =>
      have hall : command.all keyable := by simpa using hfind
      simp [hwords, hall] at h

/-- Whether a command can be used is its answer, if this is known. -/
theorem run_available_of_some {command : List Value} (h : usable? settings = some command)
    {answer : Bool} (hprobed : probed? s command = some answer) :
    (available settings).run s = (.ok answer, s) := by
  obtain ⟨hwords, hkeyable⟩ := usable?_eq_some_iff.1 h
  simp only [available, hwords]
  rw [run_bind, run_liftM_ok]
  simp only [find?_keyable hkeyable]
  rw [run_bind, run_get]
  simp only [hprobed]
  rfl

/-- Whether a command can be used is the answer of a new probe, if none is known; this has to be
permitted. -/
theorem run_available_of_none {command : List Value} (h : usable? settings = some command)
    (hprobed : probed? s command = none) :
    (available settings).run s =
      let t := s.started (probe command)
      if s.next = .notPermitted then (.error (.file .notPermitted []), t)
      else (.ok s.next.succeeds, t.answered command s.next.succeeds) := by
  obtain ⟨hwords, hkeyable⟩ := usable?_eq_some_iff.1 h
  simp only [available, hwords]
  rw [run_bind, run_liftM_ok]
  simp only [find?_keyable hkeyable]
  rw [run_bind, run_get]
  simp only [hprobed]
  rw [run_bind, run_start]
  rcases s.next with ⟨code, output, errors⟩ | _ | _ | _ | _
  all_goals rfl

/-- The session in which the code is sent to a command, if the command can be used. -/
def ready? (command : List Value) (s : Session) : Option Session :=
  match probed? s command with
  | some answer => if answer then some s else none
  | none =>
    if s.next.succeeds then some ((s.started (probe command)).answered command true) else none

/-! ### Sending the code -/

/-- What is wrong with the path of the settings file of the formatter: it is no path, or it
cannot be asked for. -/
def configTrouble? (tree : FileTree) (directory : Text) (settings : Settings) : Option Failure :=
  if !settings.configPath.truthy then none
  else
    match settings.configPath with
    | .str s =>
      let path := (PathName.ofText s.toList).shown directory
      match tree.isFile path with
      | .error e => some (.file e path.text)
      | .ok _ => none
    | v => some (.notPath v.kind)

theorem run_configWords_of_some {e : Failure} (h : configTrouble? tree directory settings = some e)
    (s : Session) : (configWords tree directory settings).run s = (.error e, s) := by
  unfold configTrouble? at h
  unfold configWords
  by_cases htruthy : !settings.configPath.truthy
  · rw [if_pos htruthy] at h
    exact absurd h (by simp)
  · rw [if_neg htruthy] at h ⊢
    generalize settings.configPath = v at h ⊢
    cases v with
    | str path =>
      dsimp only at h ⊢
      generalize tree.isFile ((PathName.ofText path.toList).shown directory) = found at h ⊢
      cases found with
      | error e' =>
        rw [← Option.some.inj h]
        rfl
      | ok found => exact absurd h (by simp)
    | _ =>
      rw [← Option.some.inj h]
      rfl

theorem run_configWords_of_none (h : configTrouble? tree directory settings = none) (s : Session) :
    ∃ words more, (configWords tree directory settings).run s =
      (.ok words, { s with messages := more ++ s.messages }) := by
  unfold configTrouble? at h
  unfold configWords
  by_cases htruthy : !settings.configPath.truthy
  · rw [if_pos htruthy]
    exact ⟨[], [], rfl⟩
  · rw [if_neg htruthy] at h ⊢
    generalize settings.configPath = v at h ⊢
    cases v with
    | str path =>
      dsimp only at h ⊢
      generalize tree.isFile ((PathName.ofText path.toList).shown directory) = found at h ⊢
      cases found with
      | error e' => exact absurd h (by simp)
      | ok found =>
        cases found with
        | true => exact ⟨_, [], rfl⟩
        | false => exact ⟨_, [_], rfl⟩
    | _ => exact absurd h (by simp)

/-- The part of formatting in which the code is sent to a command. -/
def send (tree : FileTree) (directory : Text) (settings : Settings) (command : List Value)
    (code : Text) : Work Text := do
  let config ← configWords tree directory settings
  match ← start (command ++ formatWords settings ++ config) (some code) 60 with
  | .exit code' output errors =>
    if code' = 0 then return output
    warn ("prettier exited with ".toList ++ Text.ofInt code' ++ ": ".toList ++ Text.trim errors)
    return code
  | .timeout message | .refused message =>
    warn ("prettier failed: ".toList ++ message)
    return code
  | .missing => throw (.file .notFound [])
  | .notPermitted => throw (.file .notPermitted [])

/-- **Sending the code falls back**, but for a command that is gone or may not be started. -/
theorem fallsBack_send (command : List Value) (code : Text) (h : GoesOn s t) :
    FallsBack code s ((send tree directory settings command code).run t) ↔
      configTrouble? tree directory settings = none ∧ t.next ≠ .missing ∧
        t.next ≠ .notPermitted := by
  unfold send
  rw [run_bind]
  cases hconfig : configTrouble? tree directory settings with
  | some e =>
    rw [run_configWords_of_some hconfig]
    exact ⟨fun hfalls => absurd hfalls (not_fallsBack_error e t),
      fun hnone => absurd hnone.1 (by simp)⟩
  | none =>
    obtain ⟨words, more, hwords⟩ := run_configWords_of_none hconfig t
    have hgoes : GoesOn s { t with messages := more ++ t.messages } :=
      h.trans ⟨List.suffix_rfl, List.suffix_append _ _⟩
    -- the words for the settings file leave the outcomes as they are
    have hnext : ({ t with messages := more ++ t.messages } : Session).next = t.next := rfl
    generalize { t with messages := more ++ t.messages } = u at hwords hgoes hnext
    rw [hwords]
    dsimp only
    rw [run_bind, run_start, hnext]
    have hkept : ∀ start text,
        FallsBack code s (.ok code, (u.started start).warned text) := fun start text =>
      ⟨code, rfl, .inr ⟨rfl, _, text, hgoes.trans (goesOn_started u start), rfl⟩⟩
    cases hout : t.next with
    | «exit» number output errors =>
      refine ⟨fun _ => by simp, fun _ => ?_⟩
      by_cases hzero : number = 0
      · subst hzero
        exact ⟨output, rfl, .inl ⟨u, _, errors, hgoes, hnext.trans hout, rfl, rfl⟩⟩
      · dsimp only
        rw [if_neg hzero]
        exact hkept _ _
    | missing
    | notPermitted =>
      exact ⟨fun hfalls => absurd hfalls (not_fallsBack_error _ _), fun hnot => by simp at hnot⟩
    | timeout
    | refused => exact ⟨fun _ => by simp, fun _ => hkept _ _⟩

/-! ### Formatting -/

/-- The part of formatting in which a command cannot be used. -/
def leave (command : List String) (code : Text) : Work Text := do
  warn ("prettier is not available (".toList ++ Text.join [' '] (command.map String.toList) ++
    "), leaving output unformatted".toList)
  return code

theorem line_map_str (index : Nat) (command : List String) :
    line index (command.map .str) = .ok (command.map String.toList) := by
  induction command generalizing index with
  | nil => rfl
  | cons word command ih => simp only [List.map_cons, line, ih, Except.map]

theorem format_eq (h : settings.command = .list (command.map .str)) :
    format tree directory settings code = (do
      if ← available settings then send tree directory settings (command.map .str) code
      else leave command code) := by
  unfold format
  rw [h]
  refine congrArg (available settings >>= ·) (funext fun usable => ?_)
  cases usable with
  | true => rfl
  | false =>
    change (liftM (line 0 (command.map .str)) : Work (List Text)) >>= _ = _
    rw [line_map_str]
    rfl

/-- **The ways in which formatting breaks off.** -/
inductive Breaks (tree : FileTree) (directory : Text) (settings : Settings)
    (command : List Value) (s : Session) : Prop
  /-- The probe is not permitted. -/
  | probe : probed? s command = none → s.next = .notPermitted →
      Breaks tree directory settings command s
  /-- The settings file of the formatter cannot be asked for. -/
  | config {t : Session} : ready? command s = some t →
      configTrouble? tree directory settings ≠ none → Breaks tree directory settings command s
  /-- The command is gone after its probe. -/
  | missing {t : Session} : ready? command s = some t → t.next = .missing →
      Breaks tree directory settings command s
  /-- The start that formats is not permitted. -/
  | notPermitted {t : Session} : ready? command s = some t → t.next = .notPermitted →
      Breaks tree directory settings command s

theorem breaks_of_ready {command : List Value} (hready : ready? command s = some t)
    (hprobe : probed? s command = none → s.next ≠ .notPermitted) :
    ¬Breaks tree directory settings command s ↔
      configTrouble? tree directory settings = none ∧ t.next ≠ .missing ∧
        t.next ≠ .notPermitted := by
  constructor
  · intro h
    exact ⟨Classical.byContradiction fun hconfig => h (.config hready hconfig),
      fun hmissing => h (.missing hready hmissing), fun hnot => h (.notPermitted hready hnot)⟩
  · rintro ⟨hconfig, hmissing, hnot⟩ h
    cases h with
    | probe hnone hnext => exact hprobe hnone hnext
    | config _ hsome => exact hsome hconfig
    | missing hsome hnext =>
      rw [← Option.some.inj (hready.symm.trans hsome)] at hnext
      exact hmissing hnext
    | notPermitted hsome hnext =>
      rw [← Option.some.inj (hready.symm.trans hsome)] at hnext
      exact hnot hnext

theorem not_breaks_of_not_ready {command : List Value} (hready : ready? command s = none)
    (hprobe : probed? s command = none → s.next ≠ .notPermitted) :
    ¬Breaks tree directory settings command s := by
  intro h
  cases h with
  | probe hnone hnext => exact hprobe hnone hnext
  | config hsome _
  | missing hsome _
  | notPermitted hsome _ => exact absurd (hready.symm.trans hsome) (by simp)

theorem fallsBack_leave (h : GoesOn s t) : FallsBack code s ((leave command code).run t) :=
  ⟨code, rfl, .inr ⟨rfl, t, _, h, rfl⟩⟩

/-- **Formatting falls back or breaks off.** -/
theorem fallsBack_format (h : settings.command = .list (command.map .str)) (code : Text)
    (s : Session) :
    FallsBack code s ((format tree directory settings code).run s) ↔
      ¬Breaks tree directory settings (command.map .str) s := by
  rw [format_eq h, run_bind]
  cases hprobed : probed? s (command.map .str) with
  | some answer =>
    rw [run_available_of_some (usable?_of_strings h) hprobed]
    have hprobe : probed? s (command.map .str) = none → s.next ≠ .notPermitted := fun hnone =>
      absurd (hprobed.symm.trans hnone) (by simp)
    cases answer with
    | true =>
      have hready : ready? (command.map .str) s = some s := by simp [ready?, hprobed]
      rw [breaks_of_ready hready hprobe]
      exact fallsBack_send _ code (.refl s)
    | false =>
      have hready : ready? (command.map .str) s = none := by simp [ready?, hprobed]
      exact iff_of_true (fallsBack_leave (.refl s)) (not_breaks_of_not_ready hready hprobe)
  | none =>
    rw [run_available_of_none (usable?_of_strings h) hprobed]
    dsimp only
    by_cases hnext : s.next = .notPermitted
    · rw [if_pos hnext]
      exact iff_of_false (not_fallsBack_error _ _) (not_not_intro (.probe hprobed hnext))
    · rw [if_neg hnext]
      have hgoes : ∀ answer,
          GoesOn s ((s.started (probe (command.map .str))).answered (command.map .str) answer) :=
        fun answer => (goesOn_started s _).trans (goesOn_answered _ _ answer)
      cases hanswer : s.next.succeeds with
      | true =>
        have hready : ready? (command.map .str) s =
            some ((s.started (probe (command.map .str))).answered (command.map .str) true) := by
          simp [ready?, hprobed, hanswer]
        rw [breaks_of_ready hready fun _ => hnext]
        exact fallsBack_send _ code (hgoes true)
      | false =>
        have hready : ready? (command.map .str) s = none := by simp [ready?, hprobed, hanswer]
        exact iff_of_true (fallsBack_leave (hgoes false))
          (not_breaks_of_not_ready hready fun _ => hnext)

theorem run_generate_of_enabled {hook : Option (Hook (Except Failure))} {document : Value}
    (henabled : settings.enabled.truthy)
    (h : (generateUnformatted hook document).run s = (.ok code, t)) :
    (generate tree directory hook (.known settings) document).run s =
      (format tree directory settings code).run t := by
  unfold generate
  rw [run_bind, h]
  change (if settings.enabled.truthy then _ else _ : Work Text).run t = _
  rw [if_pos henabled]

/-- **Formatting falls back unless it breaks off**, whatever the code, the command and what
becomes of its starts, and so does the generation of a module that is formatted: it gives the
module as it is wherever the formatter has not printed one. -/
theorem fallsBack_iff (tree : FileTree) (directory : Text)
    (h : settings.command = .list (command.map .str)) :
    (∀ code s, FallsBack code s ((format tree directory settings code).run s) ↔
      ¬Breaks tree directory settings (command.map .str) s) ∧
    (∀ hook document s module t, settings.enabled.truthy →
      (generateUnformatted hook document).run s = (.ok module, t) →
        (FallsBack module t ((generate tree directory hook (.known settings) document).run s) ↔
          ¬Breaks tree directory settings (command.map .str) t)) := by
  refine ⟨fallsBack_format h, fun hook document s module t henabled hmodule => ?_⟩
  rw [run_generate_of_enabled henabled hmodule]
  exact fallsBack_format h module t

/-- The settings with which code is formatted. -/
def formatting : Settings := { enabled := .bool true }

/-- A description without schemas. -/
def noSchemas : Value := .map [(.str "swagger", .str "2.0"), (.str "definitions", .map [])]

/-- A command that can be used, and that refuses the code. -/
def refusing : List Outcome :=
  [.exit 0 "3.3.3".toList [], .exit 2 [] "SyntaxError: Unexpected token".toList]

/-- The module for them is left as it is. -/
theorem fallsBack_refusing : formatting.command = .list (["prettier"].map .str) ∧
    formatting.enabled.truthy = true ∧
    ∃ t, (generateUnformatted none noSchemas).run { outcomes := refusing } =
        (.ok (TypeScript.moduleText .swagger2 []), t) ∧
      FallsBack (TypeScript.moduleText .swagger2 []) t
        ((generate .empty "/w".toList none (.known formatting) noSchemas).run
          { outcomes := refusing }) := by
  refine ⟨rfl, rfl, _, rfl, ?_⟩
  have hcommand : formatting.command = .list (["prettier"].map .str) := rfl
  refine ((fallsBack_iff .empty "/w".toList hcommand).2 none noSchemas _ _ _ rfl rfl).2 ?_
  exact (breaks_of_ready rfl fun _ => by decide).2 ⟨rfl, by decide, by decide⟩

/-- A command that may not be started is no way to fall back, nor is one that is gone after its
probe. -/
theorem not_fallsBack_notPermitted :
    ¬FallsBack ['x'] { outcomes := [.notPermitted] }
        ((format .empty "/w".toList formatting ['x']).run { outcomes := [.notPermitted] }) ∧
      ¬FallsBack ['x'] { outcomes := [.exit 0 [] [], .missing] }
        ((format .empty "/w".toList formatting ['x']).run
          { outcomes := [.exit 0 [] [], .missing] }) :=
  ⟨not_fallsBack_error _ _, not_fallsBack_error _ _⟩

end ApiTypes.Formatter
