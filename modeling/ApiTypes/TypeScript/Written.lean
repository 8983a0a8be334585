import ApiTypes.TypeScript.Quote

/-!
# The written forms of types

Every piece of generated punctuation is put together here, from the texts of the parts.
The operands of a union, of an intersection and of an array are always written between
parentheses, and a union or an intersection of a single member is that member.
-/

namespace ApiTypes.TypeScript.Written

/-- The keyword for a type that is not restricted. -/
def any : Text := ['a', 'n', 'y']

/-- The part of an index signature in front of its type. -/
def indexHead : Text :=
  ['[', 'k', 'e', 'y', ':', ' ', 's', 't', 'r', 'i', 'n', 'g', ']', ':', ' ']

/-- The type of objects without a declared shape. -/
def openObject : Text := '{' :: ' ' :: (indexHead ++ any ++ [' ', '}'])

/-- `(A) op (B)`; a single member is not wrapped. -/
def wrapped (op : Char) : List Text → Text
  | [t] => t
  | ts => '(' :: (Text.join [')', ' ', op, ' ', '('] ts ++ [')'])

/-- The union `(A) | (B)`. -/
def union (members : List Text) : Text := wrapped '|' members

/-- The intersection `(A) & (B)`. -/
def intersection (members : List Text) : Text := wrapped '&' members

/-- The array `(A)[]`. -/
def array (element : Text) : Text := '(' :: (element ++ [')', '[', ']'])

/-- The type `Partial<A>`, all of whose members are optional. -/
def partially (type : Text) : Text := ['P', 'a', 'r', 't', 'i', 'a', 'l', '<'] ++ type ++ ['>']

/-- The union `(A) | null`. -/
def nullable (type : Text) : Text := '(' :: (type ++ [')', ' ', '|', ' ', 'n', 'u', 'l', 'l'])

/-- The indexed access `root["a"]["b"]`. -/
def indexed (root : Text) (keys : List Text) : Text :=
  root ++ keys.flatMap fun k => '[' :: (quoteKey k ++ [']'])

/-- A property signature, with a question mark when it is optional. -/
def property (name : Text) (optional : Bool) (type : Text) : Text :=
  quoteKey name ++ (if optional then ['?'] else []) ++ ':' :: ' ' :: (type ++ [';', '\n'])

/-- An index signature for all keys. -/
def index (type : Text) : Text := indexHead ++ type ++ [';', '\n']

/-- An object type with the signatures `body`. -/
def object (body : Text) : Text := '{' :: ' ' :: (body ++ [' ', '}'])

end ApiTypes.TypeScript.Written
