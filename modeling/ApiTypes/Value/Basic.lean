import ApiTypes.Calendar
import ApiTypes.Decimal.Shortest

/-!
# Dynamic values

What a document, a settings file or a schema is made of. The values are those of JSON,
with mappings whose entries are in order and whose keys need not be strings, and those
that YAML adds: dates, moments, bytes, sets and pairs.

A mapping is a list of entries (`ApiTypes.Entries`). Two keys are the same key when
`ApiTypes.Value.sameKey` says so, which looks at numbers by their value: the keys `1`,
`1.0` and `true` are one key. Writing to a key that is present replaces its value and
keeps the key and its place.

What is no number is equal to no number, and as a key it is only the same as itself. A
document can hold several of them, so each carries a label (`ApiTypes.Value.nan`), and
`ApiTypes.Value.ofFloat` makes the value of a double.

The recursions over values that go through look-ups descend by `ApiTypes.Value.depth`,
and `ApiTypes.Entries.depth_of_get?` says that a value found in a mapping is less deep
than the mapping.
-/

namespace ApiTypes

/-- **A dynamic value.** -/
inductive Value where
  /-- The null value. -/
  | null
  /-- A truth value. -/
  | bool (b : Bool)
  /-- An integer of any size. -/
  | int (n : Int)
  /-- A number of double precision. -/
  | float (x : Float)
  /-- What is no number, told apart from others by a label. -/
  | nan (label : Nat)
  /-- A string. -/
  | str (s : String)
  /-- A list. -/
  | list (items : List Value)
  /-- A mapping, with its entries in order. -/
  | map (entries : List (Value × Value))
  /-- A date. -/
  | date (d : Date)
  /-- A moment. -/
  | moment (t : Moment)
  /-- A sequence of bytes. -/
  | bytes (bs : List UInt8)
  /-- A set. -/
  | set (items : List Value)
  /-- A pair. -/
  | pair (first second : Value)
deriving Inhabited

/-- The entries of a mapping, in order. -/
abbrev Entries := List (Value × Value)

/-- The kinds of values, by the names that messages use for them. -/
inductive Kind where
  /-- The null value. -/
  | null
  /-- A truth value. -/
  | bool
  /-- An integer. -/
  | int
  /-- A number of double precision. -/
  | float
  /-- A string. -/
  | str
  /-- A list. -/
  | list
  /-- A mapping. -/
  | map
  /-- A date. -/
  | date
  /-- A moment. -/
  | moment
  /-- A sequence of bytes. -/
  | bytes
  /-- A set. -/
  | set
  /-- A pair. -/
  | pair
deriving DecidableEq, Repr

/-- The name of a kind in messages. -/
def Kind.name : Kind → String
  | .null => "NoneType"
  | .bool => "bool"
  | .int => "int"
  | .float => "float"
  | .str => "str"
  | .list => "list"
  | .map => "dict"
  | .date => "date"
  | .moment => "datetime"
  | .bytes => "bytes"
  | .set => "set"
  | .pair => "tuple"

namespace Value

/-- The kind of a value. -/
def kind : Value → Kind
  | null => .null
  | bool _ => .bool
  | int _ => .int
  | float _ | nan _ => .float
  | str _ => .str
  | list _ => .list
  | map _ => .map
  | date _ => .date
  | moment _ => .moment
  | bytes _ => .bytes
  | set _ => .set
  | pair _ _ => .pair

/-- Whether a value counts as true where a truth value is asked for: everything does but
null, false, zero and what is empty. -/
def truthy : Value → Bool
  | null => false
  | bool b => b
  | int n => n ≠ 0
  | float x => x != 0
  | str s => s ≠ ""
  | list items => !items.isEmpty
  | map entries => !entries.isEmpty
  | bytes bs => !bs.isEmpty
  | set items => !items.isEmpty
  | nan _ | date _ | moment _ | pair _ _ => true

/-- **The value of a double**; what is no number gets a label. -/
def ofFloat (label : Nat) (x : Float) : Value := if x.isNaN then nan label else float x

/-- Whether a value is a mapping. -/
def isMap : Value → Bool
  | map _ => true
  | _ => false

/-- The string that a value is, if it is one. -/
def str? : Value → Option String
  | str s => some s
  | _ => none

/-- The items of a value that is a list. -/
def items? : Value → Option (List Value)
  | list items => some items
  | _ => none

/-- The entries of a value that is a mapping. -/
def entries? : Value → Option Entries
  | map entries => some entries
  | _ => none

/-! ### Keys -/

/-- The integer that a double is equal to, if there is one. -/
def integer? (x : Float) : Option Int :=
  match Decimal.classify x with
  | .zero _ => some 0
  | .finite negative d =>
    let n := d.mantissa * Nat.pow 2 d.exponent.toNat
    let m := n / Nat.pow 2 (-d.exponent).toNat
    if m * Nat.pow 2 (-d.exponent).toNat = n then some (if negative then -m else m) else none
  | _ => none

/-- The integer that a truth value, an integer or a double is equal to. -/
def toInteger? : Value → Option Int
  | bool b => some (if b then 1 else 0)
  | int n => some n
  | float x => integer? x
  | _ => none

/-- **The same key.** Numbers and truth values are compared by their exact value, and what
is no number by its label. -/
def sameKey : Value → Value → Bool
  | null, null => true
  | str s, str t => s = t
  | float x, float y => x == y
  | nan l, nan m => l = m
  | date d, date e => d = e
  | moment s, moment t => s.same t
  | bytes bs, bytes cs => bs = cs
  | v, w =>
    match v.toInteger?, w.toInteger? with
    | some m, some n => m = n
    | _, _ => false

@[simp]
theorem sameKey_str (s t : String) : sameKey (str s) (str t) = decide (s = t) := rfl

end Value

namespace Entries

/-- The value of a key. -/
def get? (key : Value) : Entries → Option Value
  | [] => none
  | (k, v) :: rest => if k.sameKey key then some v else get? key rest

/-- The value of a key that is a string. -/
def field? (es : Entries) (name : String) : Option Value := get? (.str name) es

/-- Writes a value to a key: in the place of the key if it is present, else behind the
last entry. -/
def insert (key value : Value) : Entries → Entries
  | [] => [(key, value)]
  | (k, v) :: rest =>
    if k.sameKey key then (k, value) :: rest else (k, v) :: insert key value rest

/-- Removes a key. -/
def erase (key : Value) (es : Entries) : Entries := es.filter fun e => !e.1.sameKey key

/-- The mapping made by writing the entries of a list one after the other. -/
def ofList (es : List (Value × Value)) : Entries :=
  es.foldl (fun acc e => insert e.1 e.2 acc) []

end Entries

/-! ### Depth -/

namespace Value

mutual

/-- The number of levels of a value. -/
def depth : Value → Nat
  | .list items => depthItems items + 1
  | .set items => depthItems items + 1
  | .map entries => depthEntries entries + 1
  | .pair a b => max (depth a) (depth b) + 1
  | _ => 1
termination_by structural v => v

/-- The greatest number of levels among the values of a list. -/
def depthItems : List Value → Nat
  | [] => 0
  | v :: rest => max (depth v) (depthItems rest)
termination_by structural vs => vs

/-- The greatest number of levels among the keys and values of a mapping. -/
def depthEntries : List (Value × Value) → Nat
  | [] => 0
  | (k, v) :: rest => max (max (depth k) (depth v)) (depthEntries rest)
termination_by structural es => es

end

theorem depth_pos (v : Value) : 0 < v.depth := by
  cases v <;> simp [depth]

theorem depth_le_depthItems {v : Value} {vs : List Value} (h : v ∈ vs) :
    v.depth ≤ depthItems vs := by
  induction vs with
  | nil => simp at h
  | cons w ws ih =>
    rcases List.mem_cons.1 h with rfl | h
    · simp only [depthItems]; omega
    · have := ih h
      simp only [depthItems]; omega

theorem depth_le_depthEntries {k v : Value} {es : Entries} (h : (k, v) ∈ es) :
    v.depth ≤ depthEntries es := by
  induction es with
  | nil => simp at h
  | cons e rest ih =>
    obtain ⟨k', v'⟩ := e
    rcases List.mem_cons.1 h with h | h
    · obtain ⟨rfl, rfl⟩ := Prod.mk.injEq .. ▸ h
      simp only [depthEntries]; omega
    · have := ih h
      simp only [depthEntries]; omega

theorem depth_of_mem_list {v : Value} {items : List Value} (h : v ∈ items) :
    v.depth < (Value.list items).depth := by
  have := depth_le_depthItems h
  simp only [depth]; omega

theorem depth_of_mem_map {k v : Value} {es : Entries} (h : (k, v) ∈ es) :
    v.depth < (Value.map es).depth := by
  have := depth_le_depthEntries h
  simp only [depth]; omega

end Value

namespace Entries

theorem mem_of_get? {key v : Value} {es : Entries} (h : get? key es = some v) :
    ∃ k, (k, v) ∈ es := by
  induction es with
  | nil => simp [get?] at h
  | cons e rest ih =>
    obtain ⟨k, w⟩ := e
    by_cases hk : k.sameKey key
    · simp only [get?, hk, if_true, Option.some.injEq] at h
      exact ⟨k, by simp [h]⟩
    · simp only [get?, hk] at h
      obtain ⟨k', hk'⟩ := ih h
      exact ⟨k', List.mem_cons_of_mem _ hk'⟩

/-- A value found in a mapping is less deep than the mapping. -/
theorem depth_of_get? {key v : Value} {es : Entries} (h : get? key es = some v) :
    v.depth < (Value.map es).depth := by
  obtain ⟨k, hk⟩ := mem_of_get? h
  exact Value.depth_of_mem_map hk

end Entries

end ApiTypes
