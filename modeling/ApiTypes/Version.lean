import ApiTypes.Failure
import ApiTypes.Text.Blank
import ApiTypes.Text.Digit

/-!
# The version of a description

A description declares its dialect by a version field, `openapi` or `swagger`, of which
only the major version counts (`ApiTypes.majorVersion`): the integer itself, the whole
part of a double, or the integer at the front of a string. The named schemas are kept
under `definitions` in Swagger 2 and under `components` and `schemas` in OpenAPI 3.
-/

namespace ApiTypes

/-- The integer at the front of a text, behind any white space: a sign, which may be
missing, and as many digits as there are, at least one. -/
def leadingInteger? (t : Text) : Option Int :=
  let numeral (sign : Int) (rest : Text) : Option Int :=
    let digits := rest.takeWhile Text.isDigit
    if digits.isEmpty then none else some (sign * Text.digitsValue digits)
  match Text.trimStart t with
  | '-' :: rest => numeral (-1) rest
  | '+' :: rest => numeral 1 rest
  | rest => numeral 1 rest

/-- The whole part of a finite double. -/
def wholePart? (x : Float) : Option Int :=
  match Decimal.classify x with
  | .zero _ => some 0
  | .finite negative d =>
    let n := d.mantissa * Nat.pow 2 d.exponent.toNat / Nat.pow 2 (-d.exponent).toNat
    some (if negative then -n else n)
  | _ => none

/-- **The major version** in a version field. -/
def majorVersion : Value → Option Int
  | .int n => some n
  | .float x => wholePart? x
  | .str s => leadingInteger? s.toList
  | _ => none

namespace Description

/-- The dialect that the version fields of a description declare. -/
def dialect? (es : Entries) : Option Dialect :=
  if (Entries.field? es "openapi").bind majorVersion = some 3 then some .openapi3
  else if (Entries.field? es "swagger").bind majorVersion = some 2 then some .swagger2
  else none

/-- The entries of a document, which has to be a mapping to be asked for a field. -/
def entries (document : Value) : Except Failure Entries :=
  match document with
  | .map es => .ok es
  | v => .error (.noAttribute (Failure.owner v.kind) ['g', 'e', 't'])

/-- **The dialect of a description.** -/
def dialect (document : Value) : Except Failure Dialect := do
  match dialect? (← entries document) with
  | some d => .ok d
  | none => .error .undetectedVersion

/-- The named schemas of a description, where its dialect keeps them. -/
def schemas? (d : Dialect) (es : Entries) : Option Entries :=
  match d with
  | .swagger2 => (Entries.field? es "definitions").bind Value.entries?
  | .openapi3 => do
    let components ← (Entries.field? es "components").bind Value.entries?
    (Entries.field? components "schemas").bind Value.entries?

/-- **The named schemas of a description.** -/
def schemas (d : Dialect) (document : Value) : Except Failure Entries := do
  match schemas? d (← entries document) with
  | some es => .ok es
  | none => .error (.missingSchemas d)

end Description

end ApiTypes
