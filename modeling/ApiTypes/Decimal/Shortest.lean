import ApiTypes.Text.Basic

/-!
# Shortest decimal numerals of binary floating-point numbers

A finite number of double precision is a dyadic `m · 2^q`, and the decimal numerals
that are read back as that number are those in an interval around it, whose ends belong
to it exactly when `m` is even. Among the grids of multiples of a power of ten, the
coarsest one that meets the interval gives the fewest digits; of its points in the
interval the nearest to the number is taken, and of two equally near ones the even one.
All comparisons are made in natural numbers.

The numeral is then laid out by the fields of a `ApiTypes.Decimal.Layout`: which
exponents are written positionally, and how an exponent is written.
-/

namespace ApiTypes.Decimal

/-- **A finite positive double**: the number `mantissa · 2^exponent`, together with
whether the next double below is only half as far away as the next one above. -/
structure Dyadic where
  /-- The mantissa `m`. -/
  mantissa : Nat
  /-- The exponent `q`. -/
  exponent : Int
  /-- Whether the mantissa is the least one of its exponent. -/
  narrowBelow : Bool

/-- What a double is. -/
inductive Class where
  /-- No number at all. -/
  | nan
  /-- An infinity. -/
  | infinite (negative : Bool)
  /-- A zero. -/
  | zero (negative : Bool)
  /-- A finite number other than zero. -/
  | finite (negative : Bool) (x : Dyadic)

/-- The class of a double, read off its bits. -/
def classify (x : Float) : Class :=
  let bits : Nat := x.toBits.toNat
  let negative := bits / Nat.pow 2 63 = 1
  let biased : Nat := bits / Nat.pow 2 52 % Nat.pow 2 11
  let fraction : Nat := bits % Nat.pow 2 52
  if biased = 2047 then
    if fraction = 0 then .infinite negative else .nan
  else if biased = 0 then
    if fraction = 0 then .zero negative else .finite negative ⟨fraction, -1074, false⟩
  else
    .finite negative ⟨fraction + Nat.pow 2 52, (biased : Int) - 1075, fraction = 0 ∧ 1 < biased⟩

namespace Dyadic

/-- The numbers that compare a multiple of `10^p` with a multiple of `2^(q-2)`:
`c · 10^p` is to `t · 2^(q-2)` as `c · (grid p).1` is to `t · (grid p).2`. -/
def grid (x : Dyadic) (p : Int) : Nat × Nat :=
  let q := x.exponent - 2
  (Nat.pow 10 p.toNat * Nat.pow 2 (-q).toNat, Nat.pow 10 (-p).toNat * Nat.pow 2 q.toNat)

/-- The multiple `c` of `10^p` that is read back as `x` and is the nearest to it, if
there is one. -/
def nearest? (x : Dyadic) (p : Int) : Option Nat :=
  let (ten, two) := x.grid p
  let mid := 4 * x.mantissa * two
  let low := (4 * x.mantissa - if x.narrowBelow then 1 else 2) * two
  let high := (4 * x.mantissa + 2) * two
  let even := x.mantissa % 2 = 0
  let inside (c : Nat) : Bool :=
    (low < c * ten ∧ c * ten < high) ∨ (even ∧ (low = c * ten ∨ c * ten = high))
  let below := mid / ten
  let above := below + 1
  match inside below && 0 < below, inside above with
  | true, true =>
    let toBelow := mid - below * ten
    let toAbove := above * ten - mid
    if toBelow < toAbove then some below
    else if toAbove < toBelow then some above
    else if below % 2 = 0 then some below else some above
  | true, false => some below
  | false, true => some above
  | false, false => none

/-- An exponent of ten above the size of `x`. -/
def ceiling (x : Dyadic) : Int :=
  ((Nat.log2 x.mantissa + 1 + x.exponent) * 30103).fdiv 100000 + 2

/-- The first grid with a point, from exponent `p` downwards through `n` exponents. -/
def search (x : Dyadic) : Nat → Int → Nat × Int
  | 0, p => (0, p)
  | n + 1, p =>
    match x.nearest? p with
    | some c => (c, p)
    | none => search x n (p - 1)

/-- **The shortest numeral**: `(c, p)` such that `c · 10^p` has the fewest digits of all
decimals that are read back as `x`. Seventeen digits always suffice. -/
def shortest (x : Dyadic) : Nat × Int := x.search 22 x.ceiling

end Dyadic

/-- **How a numeral is laid out**, apart from its digits. -/
structure Layout where
  /-- The least exponent of the leading digit that is written positionally. -/
  leastPositional : Int
  /-- The first exponent that is no longer written positionally. -/
  firstScientific : Int
  /-- The least number of digits of an exponent. -/
  exponentWidth : Nat
  /-- The text of an infinity. -/
  infinity : Text
  /-- The text of what is no number. -/
  nan : Text

/-- The digits `ds` of a number whose leading digit has exponent `e`. -/
def Layout.digits (l : Layout) (ds : Text) (e : Int) : Text :=
  if l.leastPositional ≤ e ∧ e < l.firstScientific then
    if e < 0 then
      '0' :: '.' :: (List.replicate (-e - 1).toNat '0' ++ ds)
    else
      let whole := e.toNat + 1
      if ds.length ≤ whole then
        ds ++ List.replicate (whole - ds.length) '0' ++ ['.', '0']
      else ds.take whole ++ '.' :: ds.drop whole
  else
    let point := match ds with
      | [] => []
      | [d] => [d]
      | d :: rest => d :: '.' :: rest
    let sign := if e < 0 then '-' else '+'
    point ++ 'e' :: sign :: Text.zeroFill l.exponentWidth (Text.ofNat e.natAbs)

/-- **The text of a double** in a layout. -/
def Layout.text (l : Layout) (x : Float) : Text :=
  match classify x with
  | .nan => l.nan
  | .infinite negative => if negative then '-' :: l.infinity else l.infinity
  | .zero negative => if negative then ['-', '0', '.', '0'] else ['0', '.', '0']
  | .finite negative d =>
    let (c, p) := d.shortest
    let ds := Text.ofNat c
    let t := l.digits ds (ds.length - 1 + p)
    if negative then '-' :: t else t

/-- The double nearest to `digits · 10^exponent`. Exponents far outside of the range of
doubles are settled without computing the power of ten. -/
def toFloat (negative : Bool) (digits : Nat) (exponent : Int) : Float :=
  let size := (Text.ofNat digits).length + exponent
  let magnitude : Float :=
    if digits = 0 ∨ size < -340 then 0
    else if 320 < size then Float.ofBits 0x7ff0000000000000
    else Float.ofScientific digits (decide (exponent < 0)) exponent.natAbs
  if negative then -magnitude else magnitude

end ApiTypes.Decimal
