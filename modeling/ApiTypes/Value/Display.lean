import ApiTypes.Value.Basic

/-!
# The text of a value

`ApiTypes.Value.text` is the text that stands for a value where text is asked for: for
the name of a member, for a pointer, for a literal. A string stands for itself, null and
the truth values by their names, a double by its shortest digits, and a container by its
displayed form, in which strings are quoted and escaped.
-/

namespace ApiTypes.Value

/-- **The layout of doubles**: numbers from a ten-thousandth up to `10^16` are written
positionally, exponents have a sign and at least two digits. -/
def floatLayout : Decimal.Layout where
  leastPositional := -4
  firstScientific := 16
  exponentWidth := 2
  infinity := ['i', 'n', 'f']
  nan := ['n', 'a', 'n']

/-- The text of a double. -/
def floatText (x : Float) : Text := floatLayout.text x

mutual

/-- The displayed form of a value, as it stands inside the text of a container. -/
def display : Value → Text
  | null => "None".toList
  | bool b => if b then "True".toList else "False".toList
  | int n => Text.ofInt n
  | float x => floatText x
  | nan _ => floatLayout.nan
  | str s => Text.display s.toList
  | list items => '[' :: (Text.join [',', ' '] (displayItems items) ++ [']'])
  | map entries => '{' :: (Text.join [',', ' '] (displayEntries entries) ++ ['}'])
  | date d => d.display
  | moment t => t.display
  | bytes bs => Text.displayBytes bs
  | set items =>
    match items with
    | [] => "set()".toList
    | v :: vs => '{' :: (Text.join [',', ' '] (display v :: displayItems vs) ++ ['}'])
  | pair a b => '(' :: (display a ++ [',', ' '] ++ display b ++ [')'])
termination_by structural v => v

/-- The displayed forms of the values of a list. -/
def displayItems : List Value → List Text
  | [] => []
  | v :: rest => display v :: displayItems rest
termination_by structural vs => vs

/-- The displayed forms of the entries of a mapping. -/
def displayEntries : List (Value × Value) → List Text
  | [] => []
  | (k, v) :: rest => (display k ++ [':', ' '] ++ display v) :: displayEntries rest
termination_by structural es => es

end

/-- **The text of a value.** -/
def text : Value → Text
  | str s => s.toList
  | date d => d.text
  | moment t => t.text
  | v => v.display

@[simp]
theorem text_str (s : String) : (str s).text = s.toList := rfl

/-- The text of a scalar as it reads in a JSON document: null and the truth values in
lower case, everything else by its text. -/
def literalText : Value → Text
  | null => "null".toList
  | bool b => if b then "true".toList else "false".toList
  | v => v.text

end ApiTypes.Value
