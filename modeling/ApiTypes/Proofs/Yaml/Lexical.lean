import ApiTypes.Proofs.Failing
import ApiTypes.Yaml.Token

/-!
# What can be wrong with the tokens of a text

There are two things that can be wrong with the characters of a YAML text
(`ApiTypes.Yaml.IsLexical`): they do not make up a token, or an escape names a number that is no
code point. The second one can be found at one place only, which is in a scalar between double
quotes (`ApiTypes.Yaml.lexical_escapePoints`); whatever else is read fails because of what is
read in it. So every function of the tokens has its lemma here, down to
`ApiTypes.Yaml.lexical_tokens`.
-/

namespace ApiTypes.Yaml

/-- **What can be wrong with the characters** of a text. -/
inductive IsLexical : Failure → Prop
  /-- They do not make up a token. -/
  | unparsable : IsLexical .unparsable
  /-- An escape names a number that is no code point. -/
  | noCodePoint {n : Nat} : 0x110000 ≤ n → IsLexical (.noCodePoint n)

attribute [simp] IsLexical.unparsable

/-- What is repeated fails as its step does. -/
@[simp]
theorem failsOnly_iterate {σ : Type} {P : Failure → Prop}
    {step : σ → Cursor → Except Failure (Step σ)} (hstep : ∀ s c, FailsOnly P (step s c)) (s : σ)
    (c : Cursor) : FailsOnly P (iterate step s c) := by
  induction s, c using iterate.induct step with
  | case1 s c e h =>
    rw [iterate, h]
    exact failsOnly_error.2 (hstep s c e h)
  | case2 s c s' c' h =>
    rw [iterate, h]
    exact failsOnly_ok _ _
  | case3 s c s' c' h hlt ih =>
    rw [iterate, h]
    simpa only [hlt, if_true] using ih
  | case4 s c s' c' h hlt =>
    rw [iterate, h]
    simp only [hlt, if_false, failsOnly_ok]

/-- The state that a step leads to. -/
def Step.state {σ : Type} : Step σ → σ
  | done s _ | more s _ => s

/-- What every step keeps of the state, a loop keeps. -/
theorem iterate_state {σ : Type} {I : σ → Prop} {step : σ → Cursor → Except Failure (Step σ)}
    (hstep : ∀ s c r, I s → step s c = .ok r → I r.state) {s s' : σ} {c c' : Cursor} (hs : I s)
    (h : iterate step s c = .ok (s', c')) : I s' := by
  induction s, c using iterate.induct step with
  | case1 s c e herror =>
    rw [iterate, herror] at h
    exact absurd h (by simp)
  | case2 s c s₁ c₁ hdone =>
    rw [iterate, hdone] at h
    obtain ⟨rfl, -⟩ := Prod.mk.inj (Except.ok.inj h)
    exact hstep s c _ hs hdone
  | case3 s c s₁ c₁ hmore hlt ih =>
    rw [iterate, hmore] at h
    exact ih (hstep s c _ hs hmore) (by simpa only [hlt, if_true] using h)
  | case4 s c s₁ c₁ hmore hlt =>
    rw [iterate, hmore] at h
    simp only [hlt, if_false] at h
    obtain ⟨rfl, -⟩ := Prod.mk.inj (Except.ok.inj h)
    exact hstep s c _ hs hmore

/-! ### Plain scalars -/

@[simp]
theorem lexical_plainBreaks (breaks : Option Text) (c : Cursor) :
    FailsOnly IsLexical (plainBreaks breaks c) := by
  unfold plainBreaks
  repeat' split
  all_goals simp

@[simp]
theorem lexical_plainGap (c : Cursor) : FailsOnly IsLexical (plainGap c) := by
  unfold plainGap
  dsimp only
  repeat' split
  all_goals simp

@[simp]
theorem lexical_plainStep (flow : Bool) (indent : Int) (s : PlainState) (c : Cursor) :
    FailsOnly IsLexical (plainStep flow indent s c) := by
  unfold plainStep
  dsimp only
  split
  · simp
  · refine (lexical_plainGap _).bind fun r _ => ?_
    split
    · simp
    · split <;> simp

@[simp]
theorem lexical_plainScalar (flow : Bool) (indent : Int) (c : Cursor) :
    FailsOnly IsLexical (plainScalar flow indent c) := by
  simp [plainScalar]

/-! ### Quoted scalars -/

@[simp]
theorem lexical_quotedBreaks (breaks : Text) (c : Cursor) :
    FailsOnly IsLexical (quotedBreaks breaks c) := by
  unfold quotedBreaks
  repeat' split
  all_goals simp

/-- **The place where an escape is found** that names a number beyond the code points. -/
@[simp]
theorem lexical_escapePoints (c : Cursor) : FailsOnly IsLexical (escapePoints c) := by
  unfold escapePoints
  split
  · simp
  · split
    · simp
    · dsimp only
      split
      · simp
      · split
        · next hbeyond => exact failsOnly_error.2 (.noCodePoint hbeyond)
        · simp
    · split <;> simp

@[simp]
theorem lexical_quotedStep (double : Bool) (read : List Nat) (c : Cursor) :
    FailsOnly IsLexical (quotedStep double read c) := by
  unfold quotedStep
  split <;> simp

@[simp]
theorem lexical_quotedGap (c : Cursor) : FailsOnly IsLexical (quotedGap c) := by
  unfold quotedGap
  dsimp only
  repeat' split
  all_goals simp

@[simp]
theorem lexical_quotedPart (double : Bool) (read : List Nat) (c : Cursor) :
    FailsOnly IsLexical (quotedPart double read c) := by
  simp [quotedPart]

@[simp]
theorem lexical_quotedScalar (double : Bool) (c : Cursor) :
    FailsOnly IsLexical (quotedScalar double c) := by
  simp [quotedScalar]

/-! ### Block scalars -/

@[simp]
theorem lexical_blockIndicators (c : Cursor) : FailsOnly IsLexical (blockIndicators c) := by
  simp [blockIndicators]

@[simp]
theorem lexical_ignoredLine (c : Cursor) : FailsOnly IsLexical (ignoredLine c) := by
  simp [ignoredLine]

@[simp]
theorem lexical_blockIndentation (s : Text × Nat) (c : Cursor) :
    FailsOnly IsLexical (blockIndentation s c) := by
  unfold blockIndentation
  repeat' split
  all_goals simp

@[simp]
theorem lexical_blockBreaks (indent : Nat) (breaks : Text) (c : Cursor) :
    FailsOnly IsLexical (blockBreaks indent breaks c) := by
  unfold blockBreaks
  split <;> simp

@[simp]
theorem lexical_blockStep (folded : Bool) (indent : Nat) (s : BlockState) (c : Cursor) :
    FailsOnly IsLexical (blockStep folded indent s c) := by
  simp [blockStep]

@[simp]
theorem lexical_blockScalar (folded : Bool) (indent : Int) (c : Cursor) :
    FailsOnly IsLexical (blockScalar folded indent c) := by
  unfold blockScalar
  simp only [failsOnly_bind, lexical_blockIndicators, lexical_ignoredLine, true_and]
  intro indicators _ c' _
  split <;> simp

/-! ### Directives, anchors and tags -/

@[simp]
theorem lexical_versionNumber (c : Cursor) : FailsOnly IsLexical (versionNumber c) := by
  simp [versionNumber]

@[simp]
theorem lexical_versionValue (c : Cursor) : FailsOnly IsLexical (versionValue c) := by
  simp [versionValue]

@[simp]
theorem lexical_uriEscapes (bytes : List UInt8) (c : Cursor) :
    FailsOnly IsLexical (uriEscapes bytes c) := by
  unfold uriEscapes
  repeat' split
  all_goals simp

@[simp]
theorem lexical_uriStep (read : Text) (c : Cursor) : FailsOnly IsLexical (uriStep read c) := by
  unfold uriStep
  split
  · refine (failsOnly_iterate lexical_uriEscapes _ _).bind fun r _ => ?_
    dsimp only
    split <;> simp
  · simp
  · simp

@[simp]
theorem lexical_uri (c : Cursor) : FailsOnly IsLexical (uri c) := by
  simp [uri]

@[simp]
theorem lexical_handle (c : Cursor) : FailsOnly IsLexical (handle c) := by
  simp [handle]

@[simp]
theorem lexical_handleValue (c : Cursor) : FailsOnly IsLexical (handleValue c) := by
  simp [handleValue]

@[simp]
theorem lexical_directive (c : Cursor) : FailsOnly IsLexical (directive c) := by
  simp [directive]

@[simp]
theorem lexical_anchorName (c : Cursor) : FailsOnly IsLexical (anchorName c) := by
  simp [anchorName]

@[simp]
theorem lexical_tag (c : Cursor) : FailsOnly IsLexical (tag c) := by
  simp [tag]

/-! ### Tokens -/

namespace Lexer

@[simp]
theorem lexical_removeKey (l : Lexer) : FailsOnly IsLexical l.removeKey := by
  unfold removeKey
  split <;> simp

@[simp]
theorem lexical_saveKey (l : Lexer) (c : Cursor) : FailsOnly IsLexical (l.saveKey c) := by
  simp [saveKey]

@[simp]
theorem lexical_dropStaleKeys (l : Lexer) (c : Cursor) :
    FailsOnly IsLexical (l.dropStaleKeys c) := by
  simp [dropStaleKeys]

end Lexer

@[simp]
theorem lexical_skipToToken (l : Lexer) (c : Cursor) : FailsOnly IsLexical (skipToToken l c) := by
  unfold skipToToken
  split <;> simp

@[simp]
theorem lexical_documentToken (l : Lexer) : FailsOnly IsLexical (documentToken l) := by
  simp [documentToken]

@[simp]
theorem lexical_contentToken (l : Lexer) (c : Cursor) {scan : Except Failure (Token × Cursor)}
    (h : FailsOnly IsLexical scan) : FailsOnly IsLexical (contentToken l c scan) := by
  simp [contentToken, h]

@[simp]
theorem lexical_flowStart (l : Lexer) (c : Cursor) (t : Token) :
    FailsOnly IsLexical (flowStart l c t) := by
  simp [flowStart]

@[simp]
theorem lexical_flowEnd (l : Lexer) (c : Cursor) (t : Token) :
    FailsOnly IsLexical (flowEnd l c t) := by
  simp [flowEnd]

@[simp]
theorem lexical_entryToken (l : Lexer) (c : Cursor) : FailsOnly IsLexical (entryToken l c) := by
  simp [entryToken]

@[simp]
theorem lexical_keyToken (l : Lexer) (c : Cursor) : FailsOnly IsLexical (keyToken l c) := by
  simp [keyToken]

@[simp]
theorem lexical_valueToken (l : Lexer) (c : Cursor) : FailsOnly IsLexical (valueToken l c) := by
  unfold valueToken
  split <;> simp

@[simp]
theorem lexical_blockToken (l : Lexer) (folded : Bool) (c : Cursor) :
    FailsOnly IsLexical (blockToken l folded c) := by
  simp [blockToken]

@[simp]
theorem lexical_plainToken (l : Lexer) (c : Cursor) : FailsOnly IsLexical (plainToken l c) := by
  simp [plainToken]

@[simp]
theorem lexical_tokenAt (l : Lexer) (ch : Char) (c : Cursor) :
    FailsOnly IsLexical (tokenAt l ch c) := by
  simp [tokenAt]

@[simp]
theorem lexical_nextToken (l : Lexer) (c : Cursor) : FailsOnly IsLexical (nextToken l c) := by
  simp only [nextToken, failsOnly_bind, failsOnly_iterate, lexical_skipToToken,
    Lexer.lexical_dropStaleKeys, implies_true, true_and]
  intro r _ l' _
  split <;> simp

/-- The loop over the tokens ends without a failure of its own. -/
theorem failsOnly_tokenStep (s : Lexer × Option Failure) (c : Cursor) :
    FailsOnly (fun _ => False) (tokenStep s c) := by
  unfold tokenStep
  split <;> simp

/-- **What is wrong behind the tokens of a text** is wrong with its characters. -/
theorem lexical_tokens {t : Text} {e : Failure} (h : (tokens t).2 = some e) : IsLexical e := by
  have hstep : ∀ (s : Lexer × Option Failure) c r, (∀ e, s.2 = some e → IsLexical e) →
      tokenStep s c = .ok r → ∀ e, r.state.2 = some e → IsLexical e := by
    intro s c r _ hr e he
    unfold tokenStep at hr
    split at hr
    all_goals obtain rfl := Except.ok.inj hr
    · exact absurd he (by simp [Step.state])
    · exact absurd he (by simp [Step.state])
    · next e' hnext =>
      obtain rfl : e' = e := Option.some.inj he
      exact lexical_nextToken _ _ e' hnext
  unfold tokens at h
  split at h
  · exact absurd h (by simp)
  · next l e' c hiterate =>
    obtain rfl : e' = e := Option.some.inj h
    exact iterate_state hstep (by simp) hiterate e' rfl
  · next e' hiterate =>
    exact (failsOnly_iterate failsOnly_tokenStep _ _ e' hiterate).elim

end ApiTypes.Yaml
