import ApiTypes.Text.Digit

/-!
# Tags

The tag of a node says what kind of value the node is. A plain scalar without a tag gets
one by its text (`ApiTypes.Yaml.Tag.ofPlain`): the words for truth values and for null,
the numerals of integers in several bases, of doubles, of dates and moments each have a
form of their own, and all other scalars are strings. A line feed at the very end of the
text does not count.
-/

namespace ApiTypes.Yaml

/-- **The tag of a node.** -/
inductive Tag where
  /-- Null. -/
  | null
  /-- A truth value. -/
  | bool
  /-- An integer. -/
  | int
  /-- A number of double precision. -/
  | float
  /-- Bytes. -/
  | binary
  /-- A date or a moment. -/
  | timestamp
  /-- A list of pairs in order. -/
  | omap
  /-- A list of pairs. -/
  | pairs
  /-- A set. -/
  | set
  /-- A string. -/
  | str
  /-- A list. -/
  | seq
  /-- A mapping. -/
  | map
  /-- The key that merges other mappings. -/
  | merge
  /-- The key for a value by default. -/
  | value
  /-- Any other tag. -/
  | other
deriving DecidableEq, Repr

namespace Tag

/-- What the tags of YAML itself start with. -/
def standardPrefix : Text := "tag:yaml.org,2002:".toList

/-- The names of the tags of YAML itself. -/
def names : List (String × Tag) :=
  [("null", null), ("bool", bool), ("int", int), ("float", float), ("binary", binary),
   ("timestamp", timestamp), ("omap", omap), ("pairs", pairs), ("set", set), ("str", str),
   ("seq", seq), ("map", map), ("merge", merge), ("value", value)]

/-- The tag with a full name. -/
def ofName (name : Text) : Tag :=
  ((names.find? fun n => name = standardPrefix ++ n.1.toList).map (·.2)).getD other

/-! ### The forms of plain scalars -/

/-- The words for truth values. -/
def boolWords : List (String × Bool) :=
  [("yes", true), ("Yes", true), ("YES", true), ("no", false), ("No", false), ("NO", false),
   ("true", true), ("True", true), ("TRUE", true), ("false", false), ("False", false),
   ("FALSE", false), ("on", true), ("On", true), ("ON", true), ("off", false), ("Off", false),
   ("OFF", false)]

/-- The words for null. -/
def nullWords : List String := ["", "~", "null", "Null", "NULL"]

/-- Whether a character is a digit up to `last`, or an underscore. -/
def isDigitTo (last : Char) (c : Char) : Bool := c = '_' || ('0' ≤ c && c ≤ last)

/-- Whether a character is a hexadecimal digit or an underscore. -/
def isHexOrUnderscore (c : Char) : Bool := c = '_' || (Text.hexValue? c).isSome

/-- The text without a sign in front. -/
def dropSign (t : Text) : Text :=
  match t with
  | '-' :: rest => rest
  | '+' :: rest => rest
  | t => t

/-- Whether a text is a number below sixty with one or two digits. -/
def isSixtieth : Text → Bool
  | [c] => c.isDigit
  | [c, d] => '0' ≤ c && c ≤ '5' && d.isDigit
  | _ => false

/-- Whether a text is an integer. -/
def isInt (t : Text) : Bool :=
  match dropSign t with
  | '0' :: 'b' :: ds => ds ≠ [] && ds.all (isDigitTo '1')
  | '0' :: 'x' :: ds => ds ≠ [] && ds.all isHexOrUnderscore
  | '0' :: ds => ds.all (isDigitTo '7')
  | c :: ds =>
    '1' ≤ c && c ≤ '9' &&
      match Text.split ':' ds with
      | [] => false
      | first :: others => first.all (isDigitTo '9') && others.all isSixtieth
  | [] => false

/-- Whether a text is an exponent with a sign, or nothing. -/
def isExponent : Text → Bool
  | [] => true
  | e :: sign :: ds =>
    (e = 'e' || e = 'E') && (sign = '-' || sign = '+') && ds ≠ [] && ds.all Char.isDigit
  | _ => false

/-- Whether a text is the fraction of a double with an exponent behind it. -/
def isFraction (t : Text) : Bool :=
  isExponent (t.dropWhile (isDigitTo '9'))

/-- Whether a text is the last part of a double in base sixty. -/
def isLastSixtieth (t : Text) : Bool :=
  let whole := t.takeWhile (· ≠ '.')
  match t.dropWhile (· ≠ '.') with
  | '.' :: ds => isSixtieth whole && ds.all (isDigitTo '9')
  | _ => false

/-- Whether a text, which has no sign, is a double of digits. -/
def isDigitFloat (t : Text) : Bool :=
  match t with
  | c :: rest =>
    c.isDigit &&
      match rest.dropWhile (isDigitTo '9') with
      | '.' :: rest => isFraction rest
      | ':' :: rest =>
        match (Text.split ':' rest).reverse with
        | last :: others => isLastSixtieth last && others.all isSixtieth
        | [] => false
      | _ => false
  | [] => false

/-- The words for the infinity. -/
def infinityWords : List String := [".inf", ".Inf", ".INF"]

/-- The words for what is no number. -/
def nanWords : List String := [".nan", ".NaN", ".NAN"]

/-- Whether a text is one of some words. -/
def isWord (words : List String) (t : Text) : Bool := words.any fun w => t = w.toList

/-- Whether a text is a double. -/
def isFloat (t : Text) : Bool :=
  isDigitFloat (dropSign t) || isWord infinityWords (dropSign t) || isWord nanWords t ||
    match t with
    | '.' :: c :: rest => c.isDigit && isFraction rest
    | _ => false

/-- The parts of a date or of a moment, as they are written. -/
structure StampParts where
  /-- The year. -/
  year : Text
  /-- The month. -/
  month : Text
  /-- The day. -/
  day : Text
  /-- The hour, the minute and the second. -/
  time : Option (Text × Text × Text) := none
  /-- The digits of the fraction of a second. -/
  fraction : Text := []
  /-- Whether the moment is in universal time. -/
  universal : Bool := false
  /-- The sign, the hours and the minutes of an offset. -/
  offset : Option (Char × Text × Text) := none

/-- Between one and `most` digits, and the rest. -/
def someDigits? (most : Nat) (t : Text) : Option (Text × Text) :=
  let ds := (t.take most).takeWhile Char.isDigit
  if ds = [] then none else some (ds, t.drop ds.length)

/-- Exactly `n` digits, and the rest. -/
def exactDigits? (n : Nat) (t : Text) : Option (Text × Text) :=
  (someDigits? n t).filter fun r => r.1.length = n

/-- The rest behind the character `c`. -/
def behind? (c : Char) (t : Text) : Option Text :=
  match t with
  | d :: rest => if d = c then some rest else none
  | [] => none

/-- Whether a character is a space or a tab. -/
def isSpaceOrTab (c : Char) : Bool := c = ' ' ∨ c = '\t'

/-- The time zone at the end of a moment. -/
def zone? (parts : StampParts) (t : Text) : Option StampParts :=
  if t = [] then some parts
  else
    match t.dropWhile isSpaceOrTab with
    | ['Z'] => some { parts with universal := true }
    | sign :: rest =>
      if sign = '+' ∨ sign = '-' then do
        let (hours, rest) ← someDigits? 2 rest
        if rest = [] then some { parts with offset := some (sign, hours, []) }
        else
          let (minutes, rest) ← exactDigits? 2 (← behind? ':' rest)
          if rest = [] then some { parts with offset := some (sign, hours, minutes) } else none
      else none
    | [] => none

/-- The time of day at the end of a moment. -/
def clock? (parts : StampParts) (t : Text) : Option StampParts := do
  let t ← match t with
    | c :: rest =>
      if c = 'T' ∨ c = 't' then some rest
      else if isSpaceOrTab c then some (rest.dropWhile isSpaceOrTab)
      else none
    | [] => none
  let (hour, t) ← someDigits? 2 t
  let (minute, t) ← exactDigits? 2 (← behind? ':' t)
  let (second, t) ← exactDigits? 2 (← behind? ':' t)
  let parts := { parts with time := some (hour, minute, second) }
  match t with
  | '.' :: rest =>
    zone? { parts with fraction := rest.takeWhile Char.isDigit } (rest.dropWhile Char.isDigit)
  | t => zone? parts t

/-- **The parts of a date or of a moment.** A date by itself may have a single digit for its
month or its day only where `loose` says so. -/
def stampParts? (loose : Bool) (t : Text) : Option StampParts := do
  let (year, t) ← exactDigits? 4 t
  let (month, t) ← someDigits? 2 (← behind? '-' t)
  let (day, t) ← someDigits? 2 (← behind? '-' t)
  let parts : StampParts := { year, month, day }
  if t = [] then if loose ∨ (month.length = 2 ∧ day.length = 2) then some parts else none
  else clock? parts t

/-- The text without a line feed at its very end. -/
def dropFinalBreak (t : Text) : Text :=
  if t.getLast? = some '\n' then t.dropLast else t

/-- Whether the form of a scalar is looked at, which depends on its first character: what
is nothing but a line feed is no form of null. -/
def startsForm (t : Text) : Bool := t.head? ≠ some '\n'

/-- **The tag of a plain scalar** without one. -/
def ofPlain (t : Text) : Tag :=
  let s := dropFinalBreak t
  if !startsForm t then str
  else if isWord (boolWords.map (·.1)) s then bool
  else if isFloat s then float
  else if isInt s then int
  else if isWord ["<<"] s then merge
  else if isWord nullWords s then null
  else if (stampParts? false s).isSome then timestamp
  else if isWord ["="] s then value
  else if isWord ["!", "&", "*"] s then other
  else str

end Tag

end ApiTypes.Yaml
