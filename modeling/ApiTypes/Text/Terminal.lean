import ApiTypes.Text.Basic

/-!
# Control sequences of terminals

A control sequence starts with the escape character and an opening bracket, goes on with
parameters and then with intermediate characters, and ends in a final one. It changes the
look of what is printed on a terminal. `ApiTypes.Text.stripControls` removes these
sequences from what is printed elsewhere.
-/

namespace ApiTypes.Text

/-- The escape character. -/
def escape : Char := '\x1b'

/-- Whether a character is a parameter of a control sequence: a digit or a sign between
the digits and the letters of the ASCII table. -/
def isControlParameter (c : Char) : Bool := '0' ≤ c && c ≤ '?'

/-- Whether a character may stand between the parameters and the end of a control
sequence: the space, and the signs in front of the digits. -/
def isControlIntermediate (c : Char) : Bool := ' ' ≤ c && c ≤ '/'

/-- Whether a character ends a control sequence: a letter, or a sign among the letters. -/
def isControlFinal (c : Char) : Bool := '@' ≤ c && c ≤ '~'

/-- How far a control sequence is read. -/
inductive ControlPart where
  /-- Nothing is read. -/
  | outside
  /-- The escape character is read. -/
  | opening
  /-- The opening bracket is read, and perhaps parameters. -/
  | parameters
  /-- Intermediate characters are read. -/
  | intermediates
deriving DecidableEq, Repr

/-- How far a control sequence is read behind one more character, if it is not over. -/
def ControlPart.next? (part : ControlPart) (c : Char) : Option ControlPart :=
  match part with
  | outside => none
  | opening => if c = '[' then some parameters else none
  | parameters =>
    if isControlParameter c then some parameters
    else if isControlIntermediate c then some intermediates
    else none
  | intermediates => if isControlIntermediate c then some intermediates else none

/-- Whether a control sequence is read as far as a final character can end it. -/
def ControlPart.canEnd : ControlPart → Bool
  | outside | opening => false
  | parameters | intermediates => true

/-- Removes control sequences from a text behind `pending`, which is what has been read of
a control sequence so far, in reverse. -/
def stripControlsFrom (part : ControlPart) (pending : Text) : Text → Text
  | [] => pending.reverse
  | c :: rest =>
    if c = escape then pending.reverse ++ stripControlsFrom .opening [c] rest
    else match part.next? c with
      | some part => stripControlsFrom part (c :: pending) rest
      | none =>
        if part.canEnd && isControlFinal c then stripControlsFrom .outside [] rest
        else pending.reverse ++ c :: stripControlsFrom .outside [] rest

/-- **The text without control sequences.** -/
def stripControls (t : Text) : Text := stripControlsFrom .outside [] t

/-- A text without escape characters has no control sequences. -/
theorem stripControls_eq_self {t : Text} (h : escape ∉ t) : stripControls t = t := by
  unfold stripControls
  induction t with
  | nil => rfl
  | cons c rest ih =>
    have hc : c ≠ escape := fun e => h (e ▸ List.mem_cons_self)
    have hrest := ih fun m => h (List.mem_cons_of_mem _ m)
    simp [stripControlsFrom, hc, ControlPart.next?, ControlPart.canEnd, hrest]

/-- How many characters of a control sequence are read at least. -/
def ControlPart.pendingLength : ControlPart → Nat
  | outside => 0
  | opening => 1
  | parameters | intermediates => 2

/-- One more character makes what is read longer. -/
theorem ControlPart.pendingLength_next {part next : ControlPart} {c : Char}
    (h : part.next? c = some next) : next.pendingLength ≤ part.pendingLength + 1 := by
  cases part with
  | outside => simp [next?] at h
  | opening | parameters | intermediates =>
    unfold next? at h
    repeat' split at h
    all_goals simp at h
    all_goals subst h; simp [pendingLength]

theorem stripControlsFrom_eq_or_length (part : ControlPart) (pending t : Text)
    (hpending : part.pendingLength ≤ pending.length) :
    stripControlsFrom part pending t = pending.reverse ++ t ∨
      (stripControlsFrom part pending t).length + 3 ≤ pending.length + t.length := by
  induction t generalizing part pending with
  | nil => exact .inl (List.append_nil _).symm
  | cons c rest ih =>
    rw [stripControlsFrom]
    split
    · next hc =>
      -- another sequence opens, and what has been read was none
      rcases ih .opening [c] (Nat.le_refl 1) with heq | hlength
      · exact .inl (by rw [heq]; rfl)
      · right
        simp only [List.length_append, List.length_reverse, List.length_cons,
          List.length_nil] at hlength ⊢
        omega
    · split
      · next next hnext =>
        have hlonger : next.pendingLength ≤ (c :: pending).length := by
          have := ControlPart.pendingLength_next hnext
          rw [List.length_cons]
          omega
        rcases ih next (c :: pending) hlonger with heq | hlength
        · exact .inl (by rw [heq]; simp)
        · right
          rw [List.length_cons] at hlength ⊢
          omega
      · split
        · next hend =>
          -- a sequence is over, and its characters are gone
          have htwo : 2 ≤ pending.length := by
            cases part <;> simp_all [ControlPart.canEnd, ControlPart.pendingLength]
          right
          rcases ih .outside [] (Nat.zero_le _) with heq | hlength
          · simp only [heq, List.reverse_nil, List.nil_append, List.length_cons]
            omega
          · simp only [List.length_nil, List.length_cons] at hlength ⊢
            omega
        · rcases ih .outside [] (Nat.zero_le _) with heq | hlength
          · exact .inl (by rw [heq]; rfl)
          · right
            simp only [List.length_append, List.length_reverse, List.length_cons,
              List.length_nil] at hlength ⊢
            omega

/-- **A control sequence has three characters at least**: a text either has none, or it is shorter
by as much without them. -/
theorem stripControls_eq_or_length (t : Text) :
    stripControls t = t ∨ (stripControls t).length + 3 ≤ t.length := by
  simpa [stripControls] using
    stripControlsFrom_eq_or_length .outside [] t (Nat.zero_le _)

end ApiTypes.Text
