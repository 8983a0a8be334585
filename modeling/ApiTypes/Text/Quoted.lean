import ApiTypes.Text.Printable
import ApiTypes.Text.Surrogate

/-!
# The displayed form of strings and bytes

Inside the text of a list or of a mapping a string is displayed between quotes: single
ones, unless it contains a single quote and no double quote. The backslash, the
surrounding quote, the line feed, the carriage return and the tab have short escapes;
every other character that is not printable is written by its code point in lower-case
hexadecimal, with two, four or eight digits. Bytes are displayed in the same way behind
the letter `b`, with two hexadecimal digits for all that is not printable ASCII.
-/

namespace ApiTypes.Text

/-- The lower-case hexadecimal numeral of `n` with at least `width` digits. -/
def hex (width n : Nat) : Text := zeroFill width (Nat.toDigits 16 n)

/-- The quote that surrounds a displayed string. -/
def displayQuote (t : Text) : Char :=
  if '\'' ∈ t ∧ '"' ∉ t then '"' else '\''

/-- One character of a string displayed between quotes `q`. -/
def displayChar (q c : Char) : Text :=
  if c = q ∨ c = '\\' then ['\\', c]
  else if c = '\n' then ['\\', 'n']
  else if c = '\r' then ['\\', 'r']
  else if c = '\t' then ['\\', 't']
  else if isPrintable c then [c]
  else
    let n := codePoint c
    if n < 0x100 then '\\' :: 'x' :: hex 2 n
    else if n < 0x10000 then '\\' :: 'u' :: hex 4 n
    else '\\' :: 'U' :: hex 8 n

/-- **A displayed string**: quoted and with its unprintable characters escaped. -/
def display (t : Text) : Text :=
  let q := displayQuote t
  q :: (t.flatMap (displayChar q) ++ [q])

/-- The wording of what is wrong with surrogates where a text is to be encoded. -/
def SurrogateRun.message (run : SurrogateRun) : String :=
  let place (n : Nat) : String := String.ofList (ofNat n)
  if run.length = 1 then
    "'utf-8' codec can't encode character '\\u" ++ String.ofList (hex 4 run.first) ++
      "' in position " ++ place run.position ++ ": surrogates not allowed"
  else
    "'utf-8' codec can't encode characters in position " ++ place run.position ++ "-" ++
      place (run.position + run.length - 1) ++ ": surrogates not allowed"

/-- One byte of a byte string displayed between quotes `q`. -/
def displayByte (q : Char) (b : UInt8) : Text :=
  let c := Char.ofNat b.toNat
  if b < 0x7f then
    if b < 0x20 ∧ c ≠ '\n' ∧ c ≠ '\r' ∧ c ≠ '\t' then '\\' :: 'x' :: hex 2 b.toNat
    else displayChar q c
  else '\\' :: 'x' :: hex 2 b.toNat

/-- A displayed byte string. -/
def displayBytes (bs : List UInt8) : Text :=
  let q := displayQuote (bs.map fun b => Char.ofNat b.toNat)
  'b' :: q :: (bs.flatMap (displayByte q) ++ [q])

end ApiTypes.Text
