import ApiTypes.Text.Quoted
import ApiTypes.Text.Surrogate

/-!
# Texts as bytes

Files hold bytes; a text file holds the UTF-8 encoding of its text.
`ApiTypes.Text.decodeUtf8` decodes strictly: it refuses overlong forms, surrogates and
code points beyond the last plane, and says which bytes it cannot decode and why
(`ApiTypes.Text.Utf8Error`). The lines of a text file may end in a line feed, in a
carriage return, or in both; `ApiTypes.Text.unifyLineEnds` makes them all line feeds.

A text is encoded character by character. Whether it may be encoded is asked before, with
`ApiTypes.Text.surrogates?`, and what that leaves out is said there.
-/

namespace ApiTypes.Text

/-- Why some bytes cannot be decoded. -/
inductive Utf8Reason where
  /-- No character starts with that byte. -/
  | start
  /-- A byte inside of a character does not continue it. -/
  | continuation
  /-- The bytes end inside of a character. -/
  | truncated
deriving DecidableEq, Repr

/-- **An error of decoding**: the place of the bytes at fault, and the reason. -/
structure Utf8Error where
  /-- The number of bytes in front of those at fault. -/
  position : Nat
  /-- The number of bytes at fault. -/
  length : Nat
  /-- The first byte at fault. -/
  byte : UInt8
  /-- The reason. -/
  reason : Utf8Reason
deriving DecidableEq, Repr

/-- The wording of a reason. -/
def Utf8Reason.message : Utf8Reason → String
  | start => "invalid start byte"
  | continuation => "invalid continuation byte"
  | truncated => "unexpected end of data"

/-- The wording of an error of decoding. -/
def Utf8Error.message (e : Utf8Error) : String :=
  let place (n : Nat) : String := String.ofList (ofNat n)
  if e.length = 1 then
    "'utf-8' codec can't decode byte 0x" ++ String.ofList (hex 2 e.byte.toNat) ++
      " in position " ++ place e.position ++ ": " ++ e.reason.message
  else
    "'utf-8' codec can't decode bytes in position " ++ place e.position ++ "-" ++
      place (e.position + e.length - 1) ++ ": " ++ e.reason.message

/-- Whether a byte continues a character. -/
def isContinuation (b : UInt8) : Bool := 0x80 ≤ b ∧ b < 0xc0

/-- Whether `c` may stand behind `b` at the start of a character of three or four bytes:
it is a continuation, and the character is neither overlong, nor a surrogate, nor beyond
the last plane. -/
def isSecond (b c : UInt8) : Bool :=
  isContinuation c &&
    !(b = 0xe0 && c < 0xa0) && !(b = 0xed && 0xa0 ≤ c) &&
    !(b = 0xf0 && c < 0x90) && !(b = 0xf4 && 0x90 ≤ c)

/-- The low six bits of a continuation. -/
def payload (b : UInt8) : Nat := b.toNat % 64

/-- Decodes bytes, of which `position` stand in front, behind the characters `read`, which
are given in reverse. -/
def decodeUtf8From (position : Nat) (read : Text) : List UInt8 → Except Utf8Error Text
  | [] => .ok read.reverse
  | b :: rest =>
    let wrong (length : Nat) (reason : Utf8Reason) : Except Utf8Error Text :=
      .error ⟨position, length, b, reason⟩
    if b < 0x80 then decodeUtf8From (position + 1) (ofCodePoint b.toNat :: read) rest
    else if b < 0xc2 then wrong 1 .start
    else if b < 0xe0 then
      match rest with
      | [] => wrong 1 .truncated
      | c :: rest =>
        if isContinuation c then
          decodeUtf8From (position + 2) (ofCodePoint (b.toNat % 32 * 64 + payload c) :: read) rest
        else wrong 1 .continuation
    else if b < 0xf0 then
      match rest with
      | [] => wrong 1 .truncated
      | [c] => if isSecond b c then wrong 2 .truncated else wrong 1 .continuation
      | c :: d :: rest =>
        if !isSecond b c then wrong 1 .continuation
        else if !isContinuation d then wrong 2 .continuation
        else
          let n := (b.toNat % 16 * 64 + payload c) * 64 + payload d
          decodeUtf8From (position + 3) (ofCodePoint n :: read) rest
    else if b < 0xf5 then
      match rest with
      | [] => wrong 1 .truncated
      | [c] => if isSecond b c then wrong 2 .truncated else wrong 1 .continuation
      | [c, d] =>
        if !isSecond b c then wrong 1 .continuation
        else if !isContinuation d then wrong 2 .continuation
        else wrong 3 .truncated
      | c :: d :: e :: rest =>
        if !isSecond b c then wrong 1 .continuation
        else if !isContinuation d then wrong 2 .continuation
        else if !isContinuation e then wrong 3 .continuation
        else
          let n := ((b.toNat % 8 * 64 + payload c) * 64 + payload d) * 64 + payload e
          decodeUtf8From (position + 4) (ofCodePoint n :: read) rest
    else wrong 1 .start

/-- **Decoding UTF-8.** -/
def decodeUtf8 (bytes : List UInt8) : Except Utf8Error Text := decodeUtf8From 0 [] bytes

/-- **Encoding in UTF-8.** -/
def encodeUtf8 (t : Text) : List UInt8 := t.flatMap String.utf8EncodeChar

/-- Different texts have different encodings. -/
theorem encodeUtf8_injective {t u : Text} (h : encodeUtf8 t = encodeUtf8 u) : t = u :=
  String.ofList_injective (String.toByteArray_inj.1 (congrArg List.toByteArray h))

/-- The text with a line feed for every line end. -/
def unifyLineEnds : Text → Text
  | [] => []
  | '\r' :: '\n' :: rest => '\n' :: unifyLineEnds rest
  | '\r' :: rest => '\n' :: unifyLineEnds rest
  | c :: rest => c :: unifyLineEnds rest

end ApiTypes.Text
