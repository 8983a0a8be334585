import ApiTypes.Numeral
import ApiTypes.Failure
import ApiTypes.Text.Lower
import ApiTypes.Yaml.Tag

/-!
# The values of scalars

What the text of a scalar means under each tag. A scalar that got its tag by its own text
has the form that its tag asks for, up to a few corners; one whose tag is written in
front of it may hold anything, and then there are failures.

Underscores in numbers do not count. An integer in which colons stand is in base sixty,
and so is a double. The word `.nan` is the same number that is none wherever it stands;
what is no number by its digits or by another word gets the label that is given.
-/

namespace ApiTypes.Yaml

/-- The text without its underscores. -/
def dropUnderscores (t : Text) : Text := t.filter (· ≠ '_')

/-- The truth value of a scalar. -/
def boolValue (t : Text) : Except Failure Value :=
  let word := Text.lower t
  match Tag.boolWords.find? fun w => word = w.1.toList with
  | some w => .ok (.bool w.2)
  | none => .error (.notTruthValue word)

/-- An integer in some base. -/
def integer (base : Nat) (t : Text) : Except Failure Int :=
  match Numeral.integer? base t with
  | some n => .ok n
  | none => .error (.notInteger base t)

/-- A double. -/
def double (t : Text) : Except Failure Float :=
  match Numeral.double? t with
  | some x => .ok x
  | none => .error (.notFloat t)

/-- The integer of the parts of a number in base sixty. -/
def sixties (parts : List Int) : Int := parts.foldl (fun n d => 60 * n + d) 0

/-- An integer without its sign. -/
def magnitude (t : Text) : Except Failure Int :=
  match t with
  | [] => .error .emptyNumber
  | ['0'] => .ok 0
  | '0' :: 'b' :: ds => integer 2 ds
  | '0' :: 'x' :: ds => integer 16 ds
  | '0' :: _ => integer 8 t
  | _ => if ':' ∈ t then sixties <$> (Text.split ':' t).mapM (integer 10) else integer 10 t

/-- The integer of a scalar. -/
def intValue (t : Text) : Except Failure Value :=
  match dropUnderscores t with
  | [] => .error .emptyNumber
  | '-' :: rest => (magnitude rest).map fun n => .int (-n)
  | '+' :: rest => (magnitude rest).map .int
  | t => (magnitude t).map .int

/-- The sum of the parts of a double in base sixty, given from the last one on; each counts
`base` times what it says, which has to be in the range of doubles. -/
def sixtiesFloat (sum : Float) (base : Nat) : List Float → Except Failure Float
  | [] => .ok sum
  | x :: rest =>
    if base < Nat.pow 2 1024 then sixtiesFloat (sum + x * Float.ofNat base) (60 * base) rest
    else .error .beyondDoubles

/-- A double without its sign. -/
def floatMagnitude (t : Text) : Except Failure Float :=
  if t = ".inf".toList then .ok (Float.ofBits 0x7ff0000000000000)
  else if ':' ∈ t then do
    let parts ← (Text.split ':' t).mapM double
    sixtiesFloat 0 1 parts.reverse
  else double t

/-- The double of a scalar, which gets the label `label` if it is no number. -/
def floatValue (label : Nat) (t : Text) : Except Failure Value :=
  let t := Text.lower (dropUnderscores t)
  let (negative, rest) := Numeral.sign t
  if t = [] then .error .emptyNumber
  else if rest = ".nan".toList then .ok (.nan 0)
  else (floatMagnitude rest).map fun x => .ofFloat label (if negative then -x else x)

/-! ### Dates and moments -/

/-- The millionths of a second of a fraction: its first six digits. -/
def microseconds (fraction : Text) : Nat :=
  Text.digitsValue (fraction.take 6) * Nat.pow 10 (6 - fraction.length)

/-- The offset of a moment in minutes. -/
def offsetMinutes (parts : Tag.StampParts) : Option Int :=
  match parts.offset with
  | some (sign, hours, minutes) =>
    let n : Int := 60 * Text.digitsValue hours + Text.digitsValue minutes
    some (if sign = '-' then -n else n)
  | none => if parts.universal then some 0 else none

/-- A result of the calendar. -/
def ofCalendar {α : Type} (r : Except CalendarError α) : Except Failure α :=
  match r with
  | .ok x => .ok x
  | .error e => .error (.noSuchTime e)

/-- The date or the moment of a scalar. -/
def stampValue (t : Text) : Except Failure Value :=
  match Tag.stampParts? true (Tag.dropFinalBreak t) with
  | none => .error .notTimestamp
  | some parts =>
    let year := Text.digitsValue parts.year
    let month := Text.digitsValue parts.month
    let day := Text.digitsValue parts.day
    match parts.time with
    | none => (ofCalendar (Date.ofParts year month day)).map .date
    | some (hour, minute, second) =>
      (ofCalendar (Moment.ofParts year month day (Text.digitsValue hour)
        (Text.digitsValue minute) (Text.digitsValue second) (microseconds parts.fraction)
        (offsetMinutes parts))).map .moment

/-! ### Bytes -/

/-- The value of a character in base 64. -/
def sextet? (c : Char) : Option Nat :=
  if 'A' ≤ c ∧ c ≤ 'Z' then some (c.toNat - 65)
  else if 'a' ≤ c ∧ c ≤ 'z' then some (c.toNat - 71)
  else if '0' ≤ c ∧ c ≤ '9' then some (c.toNat + 4)
  else if c = '+' then some 62
  else if c = '/' then some 63
  else none

/-- The bytes of a text in base 64, behind those read, which are given in reverse. `place`
counts the characters of the group of four that is open, `left` holds the bits that are
left over, and `pads` counts the signs of padding. Padding that fills up a group ends the
bytes, and what is no digit is skipped. -/
def base64From (read : List UInt8) (place left pads : Nat) : Text → Option (List UInt8)
  | [] => if place = 0 then some read.reverse else none
  | c :: rest =>
    if c = '=' then
      if 2 ≤ place then
        if 4 ≤ place + pads + 1 then some read.reverse
        else base64From read place left (pads + 1) rest
      else base64From read place left pads rest
    else
      match sextet? c with
      | none => base64From read place left pads rest
      | some n =>
        match place with
        | 0 => base64From read 1 n 0 rest
        | 1 => base64From ((left * 4 + n / 16).toUInt8 :: read) 2 (n % 16) 0 rest
        | 2 => base64From ((left * 16 + n / 4).toUInt8 :: read) 3 (n % 4) 0 rest
        | _ => base64From ((left * 64 + n).toUInt8 :: read) 0 0 0 rest

/-- The bytes of a scalar. -/
def binaryValue (t : Text) : Except Failure Value :=
  if t.all fun c => c.toNat < 128 then
    match base64From [] 0 0 0 t with
    | some bytes => .ok (.bytes bytes)
    | none => .error .unparsable
  else .error .unparsable

end ApiTypes.Yaml
