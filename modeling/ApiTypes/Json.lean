import ApiTypes.Text.Digit
import ApiTypes.Text.Surrogate
import ApiTypes.Value.Basic

/-!
# Reading JSON

`ApiTypes.Json.parse?` reads a text that is one JSON value with white space around it.
White space is the space, the tab, the line feed and the carriage return. Beside the
numbers of JSON the words `NaN`, `Infinity` and `-Infinity` are numbers. A number without
a fraction and without an exponent is an integer, any other one a double. Of several
entries of an object with one name the last one counts, in the place of the first.

Each reading function takes a text and gives what it read together with the rest. The
nesting of values is bounded by the length of the text, which is the fuel of the
recursion.
-/

namespace ApiTypes.Json

/-- Whether a character is white space between the tokens of JSON. -/
def isBlank (c : Char) : Bool := c = ' ' ∨ c = '\t' ∨ c = '\n' ∨ c = '\r'

/-- The text without the white space in front of it. -/
def skipBlanks (t : Text) : Text := t.dropWhile isBlank

/-- The code unit of a letter behind a backslash. -/
def shortEscape? : Char → Option Nat
  | '"' => some 0x22
  | '\\' => some 0x5c
  | '/' => some 0x2f
  | 'b' => some 0x08
  | 'f' => some 0x0c
  | 'n' => some 0x0a
  | 'r' => some 0x0d
  | 't' => some 0x09
  | _ => none

/-- The code unit of four hexadecimal digits. -/
def unit? (a b c d : Char) : Option Nat := do
  let w ← Text.hexValue? a
  let x ← Text.hexValue? b
  let y ← Text.hexValue? c
  let z ← Text.hexValue? d
  return ((w * 16 + x) * 16 + y) * 16 + z

/-- The code units of a string up to its closing quote, behind those already read, which
are given in reverse. -/
def stringUnits (read : List Nat) : Text → Option (List Nat × Text)
  | [] => none
  | '"' :: rest => some (read.reverse, rest)
  | '\\' :: 'u' :: a :: b :: c :: d :: rest =>
    match unit? a b c d with
    | some u => stringUnits (u :: read) rest
    | none => none
  | '\\' :: c :: rest =>
    match shortEscape? c with
    | some u => stringUnits (u :: read) rest
    | none => none
  | c :: rest => if c.toNat < 0x20 ∨ c = '\\' then none else stringUnits (c.toNat :: read) rest

/-- The string behind an opening quote. -/
def string? (t : Text) : Option (String × Text) := do
  let (units, rest) ← stringUnits [] t
  return (String.ofList (Text.ofCodeUnits units), rest)

/-- The digits in front of a text. -/
def digits (t : Text) : Text × Text := (t.takeWhile Char.isDigit, t.dropWhile Char.isDigit)

/-- The digits of a fraction, behind a point. -/
def fraction (t : Text) : Text × Text :=
  match t with
  | '.' :: rest =>
    let (ds, rest') := digits rest
    if ds.isEmpty then ([], t) else (ds, rest')
  | _ => ([], t)

/-- The exponent of a number: its sign and digits, behind the letter `e`. -/
def exponent? (t : Text) : Option (Int × Text) :=
  match t with
  | e :: rest =>
    if e = 'e' ∨ e = 'E' then
      let (sign, rest) : Int × Text := match rest with
        | '-' :: rest => (-1, rest)
        | '+' :: rest => (1, rest)
        | rest => (1, rest)
      let (ds, rest) := digits rest
      if ds.isEmpty then none else some (sign * Text.digitsValue ds, rest)
    else none
  | [] => none

/-- A number without its sign. -/
def magnitude? (negative : Bool) (t : Text) : Option (Value × Text) :=
  let (whole, rest) := match t with
    | '0' :: rest => (['0'], rest)
    | t => digits t
  if whole.isEmpty then none
  else
    let (fractional, rest) := fraction rest
    match exponent? rest with
    | none =>
      if fractional.isEmpty then
        let n : Int := Text.digitsValue whole
        some (.int (if negative then -n else n), rest)
      else
        some (.float (Decimal.toFloat negative (Text.digitsValue (whole ++ fractional))
          (-fractional.length)), rest)
    | some (e, rest) =>
      some (.float (Decimal.toFloat negative (Text.digitsValue (whole ++ fractional))
        (e - fractional.length)), rest)

/-- A number. -/
def number? : Text → Option (Value × Text)
  | '-' :: rest => magnitude? true rest
  | t => magnitude? false t

/-- The positive infinity. -/
def infinity : Float := Float.ofBits 0x7ff0000000000000

/-- The words that are values. What is no number is the same one wherever it is written. -/
def words : List (String × Value) :=
  [("null", .null), ("true", .bool true), ("false", .bool false), ("NaN", .nan 0),
   ("Infinity", .float infinity), ("-Infinity", .float (-infinity))]

/-- A word that is a value. -/
def word? (t : Text) : Option (Value × Text) :=
  words.findSome? fun w => (Text.dropPrefix? w.1.toList t).map fun rest => (w.2, rest)

mutual

/-- A value; no white space may stand in front of it. -/
def value? : Nat → Text → Option (Value × Text)
  | 0, _ => none
  | fuel + 1, t =>
    match t with
    | '"' :: rest => (string? rest).map fun (s, rest) => (.str s, rest)
    | '[' :: rest =>
      match skipBlanks rest with
      | ']' :: rest => some (.list [], rest)
      | rest => items? fuel [] rest
    | '{' :: rest =>
      match skipBlanks rest with
      | '}' :: rest => some (.map [], rest)
      | rest => entries? fuel [] rest
    | t => (word? t).or (number? t)

/-- The items of an array behind those already read, which are given in reverse. -/
def items? : Nat → List Value → Text → Option (Value × Text)
  | 0, _, _ => none
  | fuel + 1, read, t =>
    match value? fuel t with
    | none => none
    | some (v, rest) =>
      match skipBlanks rest with
      | ']' :: rest => some (.list (v :: read).reverse, rest)
      | ',' :: rest => items? fuel (v :: read) (skipBlanks rest)
      | _ => none

/-- The entries of an object behind those already read. -/
def entries? : Nat → Entries → Text → Option (Value × Text)
  | 0, _, _ => none
  | fuel + 1, read, t =>
    match t with
    | '"' :: rest =>
      match string? rest with
      | none => none
      | some (name, rest) =>
        match skipBlanks rest with
        | ':' :: rest =>
          match value? fuel (skipBlanks rest) with
          | none => none
          | some (v, rest) =>
            let read := Entries.insert (.str name) v read
            match skipBlanks rest with
            | '}' :: rest => some (.map read, rest)
            | ',' :: rest => entries? fuel read (skipBlanks rest)
            | _ => none
        | _ => none
    | _ => none

end

/-- **Reading JSON**: the value that a text is, with nothing but white space around it. -/
def parse? (t : Text) : Option Value :=
  match value? (2 * t.length + 2) (skipBlanks t) with
  | some (v, rest) => if (skipBlanks rest).isEmpty then some v else none
  | none => none

end ApiTypes.Json
