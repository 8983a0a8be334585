import ApiTypes.Decimal.Shortest
import ApiTypes.Text.Blank
import ApiTypes.Text.Digit

/-!
# Reading numerals

Numerals as they are accepted where a number is asked for explicitly: with white space
around them, which the information separators do not count as here, a sign, and decimal
digits of any script. An integer in base 2, 8 or 16 may
have the prefix of its base. A double may have a fraction and an exponent, or be one of
the words for an infinity and for what is no number.
-/

namespace ApiTypes.Numeral

/-- Whether a character is white space around a numeral: every white space but the four
information separators. -/
def isBlank (c : Char) : Bool := Text.isBlank c && !(0x1c ≤ c.toNat && c.toNat ≤ 0x1f)

/-- The text without the white space around it. -/
def trim (t : Text) : Text := ((t.dropWhile isBlank).reverse.dropWhile isBlank).reverse

/-- The sign of a numeral, whether it is negative, and the rest. -/
def sign (t : Text) : Bool × Text :=
  match t with
  | '-' :: rest => (true, rest)
  | '+' :: rest => (false, rest)
  | rest => (false, rest)

/-- The value of a digit in a base of at most sixteen. -/
def digit? (base : Nat) (c : Char) : Option Nat :=
  ((Text.digitValue? c).or (Text.hexValue? c)).filter (· < base)

/-- The numeral without the prefix of its base. -/
def dropBasePrefix (base : Nat) (t : Text) : Text :=
  match base, t with
  | 2, '0' :: c :: rest => if c = 'b' ∨ c = 'B' then rest else t
  | 8, '0' :: c :: rest => if c = 'o' ∨ c = 'O' then rest else t
  | 16, '0' :: c :: rest => if c = 'x' ∨ c = 'X' then rest else t
  | _, _ => t

/-- The value of a numeral without sign, behind the value of the digits in front. -/
def digits? (base : Nat) (value : Nat) : Text → Option Nat
  | [] => some value
  | c :: rest => (digit? base c).bind fun d => digits? base (base * value + d) rest

/-- **The integer that a text names** in a base of at most sixteen. -/
def integer? (base : Nat) (t : Text) : Option Int :=
  let (negative, rest) := sign (trim t)
  let ds := dropBasePrefix base rest
  if ds.isEmpty then none
  else (digits? base 0 ds).map fun n => if negative then -n else n

/-- The text with its letters of the ASCII table in lower case. -/
def lower (t : Text) : Text := t.map Char.toLower

/-- The exponent of a double, behind the letter `e`; zero if there is none. -/
def exponent? : Text → Option Int
  | [] => some 0
  | e :: rest =>
    if e = 'e' ∨ e = 'E' then
      let (negative, ds) := sign rest
      if ds.isEmpty ∨ !ds.all Text.isDigit then none
      else some (if negative then -Text.digitsValue ds else Text.digitsValue ds)
    else none

/-- **The double that a text names.** -/
def double? (t : Text) : Option Float :=
  let (negative, rest) := sign (trim t)
  let signed (x : Float) : Float := if negative then -x else x
  let word := lower rest
  if word = ['i', 'n', 'f'] ∨ word = ['i', 'n', 'f', 'i', 'n', 'i', 't', 'y'] then
    some (signed (Float.ofBits 0x7ff0000000000000))
  else if word = ['n', 'a', 'n'] then some (Float.ofBits 0x7ff8000000000000)
  else
    let whole := rest.takeWhile Text.isDigit
    let (fraction, rest) := match rest.dropWhile Text.isDigit with
      | '.' :: rest => (rest.takeWhile Text.isDigit, rest.dropWhile Text.isDigit)
      | rest => ([], rest)
    if whole.isEmpty ∧ fraction.isEmpty then none
    else (exponent? rest).map fun e =>
      Decimal.toFloat negative (Text.digitsValue (whole ++ fraction)) (e - fraction.length)

end ApiTypes.Numeral
