import ApiTypes.Failure

/-!
# Checking generated code

Before generated code replaces a file it is looked over: it has to declare an exported
interface, and outside of its comments and string literals it has to open as many braces
as it closes. `ApiTypes.Output.strip` removes the comments and the literals, from left to
right: an opening mark whose comment or literal is never closed is taken for an ordinary
character.
-/

namespace ApiTypes.Output

/-- What follows a comment, whose opening mark stands in front. -/
def commentEnd? : Text → Option Text
  | [] => none
  | '*' :: '/' :: rest => some rest
  | _ :: rest => commentEnd? rest

/-- What follows a literal in quotes `q`, whose opening quote stands in front. A backslash
takes the character behind it along. -/
def literalEnd? (q : Char) : Text → Option Text
  | [] => none
  | ['\\'] => none
  | '\\' :: _ :: rest => literalEnd? q rest
  | c :: rest => if c = q then some rest else literalEnd? q rest

/-- What follows the comment or the literal at the front of a text. -/
def tokenEnd? : Text → Option Text
  | '/' :: '*' :: rest => commentEnd? rest
  | '"' :: rest => literalEnd? '"' rest
  | '\'' :: rest => literalEnd? '\'' rest
  | _ => none

theorem length_commentEnd? {t rest : Text} (h : commentEnd? t = some rest) :
    rest.length < t.length := by
  fun_induction commentEnd? t with
  | case1 => simp at h
  | case2 r =>
    obtain rfl := Option.some.inj h
    simp only [List.length_cons]
    omega
  | case3 c r _ ih =>
    have := ih h
    simp only [List.length_cons]
    omega

theorem length_literalEnd? {q : Char} {t rest : Text} (h : literalEnd? q t = some rest) :
    rest.length < t.length := by
  fun_induction literalEnd? q t with
  | case1 => simp at h
  | case2 => simp at h
  | case3 c r ih =>
    have := ih h
    simp only [List.length_cons]
    omega
  | case4 r _ _ =>
    obtain rfl := Option.some.inj h
    simp
  | case5 c r _ _ _ ih =>
    have := ih h
    simp only [List.length_cons]
    omega

theorem length_tokenEnd? {t rest : Text} (h : tokenEnd? t = some rest) :
    rest.length < t.length := by
  unfold tokenEnd? at h
  split at h
  · have := length_commentEnd? h
    simp only [List.length_cons]
    omega
  · have := length_literalEnd? h
    simp only [List.length_cons]
    omega
  · have := length_literalEnd? h
    simp only [List.length_cons]
    omega
  · simp at h

/-- **The text without its comments and literals.** -/
def strip : Text → Text
  | [] => []
  | c :: rest =>
    match _h : tokenEnd? (c :: rest) with
    | some rest' => strip rest'
    | none => c :: strip rest
termination_by t => t.length
decreasing_by
  · exact length_tokenEnd? _h
  · simp

/-- What generated code has to contain. -/
def marker : Text := "export interface ".toList

/-- **The check of generated code.** -/
def check (code : Text) : Except Failure Unit :=
  if !Text.contains marker code then .error .noInterface
  else
    let stripped := strip code
    let opening := stripped.count '{'
    let closing := stripped.count '}'
    if opening = closing then .ok () else .error (.unbalanced opening closing)

end ApiTypes.Output
