import ApiTypes.Hook.Rule

/-!
# Members that everything has

A path to a hook leads on through members, and some members are there without having been
written down, because of the kind (`ApiTypes.Hook.Holder`) of the thing: its name, its class,
its comparisons. Most of them are values (`ApiTypes.Hook.Holder.valueKind?`). The others can
be called (`ApiTypes.Hook.Holder.operation?`), but none of them takes a property and a view
and answers with a view.
-/

namespace ApiTypes.Hook

/-- **What can have members**: a module, a hook, a class, a text, or a value of another
kind, given by the name of that kind. -/
inductive Holder where
  /-- A module. -/
  | module
  /-- A hook. -/
  | function
  /-- A class, with its name. -/
  | group (name : String)
  /-- A text. -/
  | text
  /-- Any other value. -/
  | other (kind : String)
deriving DecidableEq, Repr

/-- What comes of calling a member with a property and its view. -/
inductive Reply where
  /-- The member refuses such arguments, with a message. -/
  | refuses (message : String)
  /-- The member answers with a value of some kind, which is no view. -/
  | answers (kind : String)

/-- The hook that refuses every property with a reply. -/
def Reply.hook (r : Reply) : Hook (Except Failure) := fun _ _ =>
  match r with
  | .refuses message => .error (.wrongCall message)
  | .answers kind => .error (.noAttribute ("'" ++ kind ++ "' object") "optional".toList)

/-- **A member that can be called.** -/
structure Operation where
  /-- Its path. There is none when the member does not know the module it is from. -/
  path? : Option String
  /-- What holds the members of the member. -/
  holder : Holder
  /-- What it does as a hook. -/
  hook : Hook (Except Failure)

namespace Operation

/-- A built-in class. -/
def ofClass (name message : String) : Operation :=
  ⟨some ("builtins:" ++ name), .group name, Reply.hook (.refuses message)⟩

/-- A method with a name of its own. -/
def method (name : String) (reply : Reply) : Operation :=
  ⟨some ("None:" ++ name), .other "builtin_function_or_method", reply.hook⟩

/-- A method that takes no arguments. -/
def unary (name : String) : Operation :=
  method name (.refuses (name ++ "() takes no arguments (2 given)"))

/-- A method that takes one argument. -/
def binary (name : String) : Operation :=
  method name (.refuses (name ++ "() takes exactly one argument (2 given)"))

/-- An operation of a thing. -/
def bound (reply : Reply) : Operation := ⟨none, .other "method-wrapper", reply.hook⟩

/-- An operation of a thing that takes some number of arguments. -/
def boundOf (expected : String) : Operation :=
  bound (.refuses ("expected " ++ expected ++ ", got 2"))

/-- An operation of the things of a class, as it is found at the class. -/
def loose (reply : Reply) : Operation := ⟨none, .other "wrapper_descriptor", reply.hook⟩

/-- A method of the things of a class, as it is found at the class. -/
def looseMethod (message : String) : Operation :=
  ⟨none, .other "method_descriptor", Reply.hook (.refuses message)⟩

/-- The calling of a hook, which does the same as the hook. -/
def ofCall (hook : Hook (Except Failure)) : Operation := ⟨none, .other "method-wrapper", hook⟩

/-! ### Tables -/

/-- The comparisons. -/
def comparisons : List String := ["__eq__", "__ne__", "__lt__", "__le__", "__gt__", "__ge__"]

/-- The operations that make a text or a number of a thing. -/
def summaries : List String := ["__hash__", "__repr__", "__str__"]

/-- The methods without arguments that everything has. -/
def inherited : List String := ["__dir__", "__getstate__", "__reduce__", "__sizeof__"]

/-- The operations of texts that take one argument. -/
def textOperations : List String :=
  ["__add__", "__contains__", "__getitem__", "__mod__", "__rmod__"]

/-- The methods of texts without arguments. -/
def textUnary : List String :=
  ["__getnewargs__", "capitalize", "casefold", "isalnum", "isalpha", "isascii", "isdecimal",
   "isdigit", "isidentifier", "islower", "isnumeric", "isprintable", "isspace", "istitle",
   "isupper", "lower", "swapcase", "title", "upper"]

/-- The methods of texts with one argument. -/
def textBinary : List String :=
  ["format_map", "join", "partition", "removeprefix", "removesuffix", "rpartition",
   "translate", "zfill"]

/-- The other methods of texts, with what they say about a property and its view. -/
def textMethods : List (String × String) :=
  let index := "slice indices must be integers or None or have an __index__ method"
  let width := "'dict' object cannot be interpreted as an integer"
  let limit := "'PropertyContext' object cannot be interpreted as an integer"
  [("center", width), ("ljust", width), ("rjust", width),
   ("count", index), ("endswith", index), ("find", index), ("index", index),
   ("rfind", index), ("rindex", index), ("startswith", index),
   ("split", limit), ("rsplit", limit),
   ("encode", "encode() argument 'encoding' must be str, not dict"),
   ("expandtabs", "expandtabs() takes at most 1 argument (2 given)"),
   ("splitlines", "splitlines() takes at most 1 argument (2 given)"),
   ("lstrip", "lstrip expected at most 1 argument, got 2"),
   ("rstrip", "rstrip expected at most 1 argument, got 2"),
   ("strip", "strip expected at most 1 argument, got 2"),
   ("maketrans", "maketrans() argument 2 must be str, not PropertyContext"),
   ("replace", "replace() argument 1 must be str, not dict")]

/-- The operations of a text, besides those that everything has. -/
def ofText? (name : String) : Option Operation :=
  if name ∈ textOperations then some (boundOf "1 argument")
  else if name ∈ ["__iter__", "__len__"] then some (boundOf "0 arguments")
  else if name ∈ ["__mul__", "__rmul__"] then
    some (bound (.refuses " expected 1 argument, got 2"))
  else if name ∈ textUnary then some (unary ("str." ++ name))
  else if name ∈ textBinary then some (binary ("str." ++ name))
  else if name = "format" then some (method "str.format" (.answers "str"))
  else (textMethods.lookup name).map fun message => method ("str." ++ name) (.refuses message)

/-- The operations that a thing has because of the name of its kind. `qualified` is the
name of the method with the name of the kind in front. -/
def ofThing? (kind qualified name : String) : Option Operation :=
  if name ∈ comparisons ∨ name = "__getattribute__" ∨ name = "__delattr__" then
    some (boundOf "1 argument")
  else if name ∈ summaries then some (boundOf "0 arguments")
  else if name = "__setattr__" then
    some (bound (.refuses "attribute name must be string, not 'dict'"))
  else if name ∈ inherited then some (unary qualified)
  else if name = "__format__" ∨ name = "__reduce_ex__" then some (binary qualified)
  else if name = "__init_subclass__" then some (unary (kind ++ "." ++ name))
  else if name = "__subclasshook__" then
    some (method (kind ++ "." ++ name) (.answers "NotImplementedType"))
  else if name = "__new__" then
    some (method (kind ++ ".__new__")
      (.refuses (kind ++ ".__new__(X): X is not a type object (dict)")))
  else none

/-- The operations of a class. -/
def ofGroup? (group name : String) : Option Operation :=
  let qualified := group ++ "." ++ name
  let noName := "attribute name must be string, not 'PropertyContext'"
  if name ∈ comparisons then some (loose (.answers "NotImplementedType"))
  else if name ∈ summaries then some (loose (.refuses "expected 0 arguments, got 1"))
  else if name ∈ inherited then
    some (looseMethod ("object." ++ name ++ "() takes no arguments (1 given)"))
  else if name ∈ ["__init_subclass__", "__subclasses__", "mro"] then some (unary qualified)
  else if name ∈ ["__instancecheck__", "__subclasscheck__"] then some (binary qualified)
  else if name ∈ ["__or__", "__ror__"] then some (boundOf "1 argument")
  else match name with
    | "__getattribute__" | "__delattr__" => some (loose (.refuses noName))
    | "__setattr__" => some (loose (.refuses " expected 2 arguments, got 1"))
    | "__init__" =>
      some (loose (.refuses
        "object.__init__() takes exactly one argument (the instance to initialize)"))
    | "__format__" =>
      some (looseMethod "__format__() argument must be str, not PropertyContext")
    | "__reduce_ex__" =>
      some (looseMethod "'PropertyContext' object cannot be interpreted as an integer")
    | "__subclasshook__" => some (method qualified (.answers "NotImplementedType"))
    | "__new__" =>
      some (method "object.__new__"
        (.refuses "object.__new__(X): X is not a type object (dict)"))
    | "__prepare__" => some (method "type.__prepare__" (.answers "dict"))
    | "__base__" => some (ofClass "object" "object() takes no arguments")
    | "__class__" => some (ofClass "type" "type() takes 1 or 3 arguments")
    | _ => none

end Operation

namespace Holder

/-- What a thing is in messages. -/
def owner (moduleName : String) : Holder → String
  | module => "module '" ++ moduleName ++ "'"
  | function => "'function' object"
  | group name => "type object '" ++ name ++ "'"
  | text => "'str' object"
  | other kind => "'" ++ kind ++ "' object"

/-- The kinds of operations, which have names. -/
def operationKinds : List String :=
  ["builtin_function_or_method", "method-wrapper", "wrapper_descriptor", "method_descriptor"]

/-- The members of a thing that are values, with the names of their kinds. -/
def values : Holder → List (String × String)
  | module =>
    [("__name__", "str"), ("__doc__", "NoneType"), ("__dict__", "dict"),
     ("__package__", "NoneType"), ("__loader__", "NoneType"), ("__spec__", "NoneType"),
     ("__annotations__", "dict")]
  | function =>
    [("__name__", "str"), ("__qualname__", "str"), ("__module__", "str"),
     ("__doc__", "NoneType"), ("__dict__", "dict"), ("__defaults__", "NoneType"),
     ("__kwdefaults__", "NoneType"), ("__closure__", "tuple"), ("__code__", "code"),
     ("__globals__", "dict"), ("__annotations__", "dict"), ("__builtins__", "dict")]
  | group _ =>
    [("__name__", "str"), ("__qualname__", "str"), ("__module__", "str"),
     ("__doc__", "NoneType"), ("__dict__", "mappingproxy"), ("__bases__", "tuple"),
     ("__mro__", "tuple"), ("__annotations__", "dict"), ("__basicsize__", "int"),
     ("__dictoffset__", "int"), ("__flags__", "int"), ("__itemsize__", "int"),
     ("__text_signature__", "NoneType"), ("__weakref__", "getset_descriptor"),
     ("__weakrefoffset__", "int")]
  | text => [("__doc__", "str")]
  | other "NoneType" => [("__doc__", "NoneType")]
  | other kind =>
    if kind ∈ operationKinds then
      [("__name__", "str"), ("__qualname__", "str"), ("__doc__", "str"),
       ("__text_signature__", "str")]
    else [("__doc__", "str")]

/-- The kind of a member that is a value. -/
def valueKind? (s : Holder) (name : String) : Option String := s.values.lookup name

/-- The member with a given name, if it can be called and is no hook. -/
def operation? (s : Holder) (name : String) : Option Operation :=
  match s with
  | module => match name with
    | "__class__" => some (.ofClass "module" "module() argument 'name' must be str, not dict")
    | "__init__" => some (.bound (.refuses "module() argument 'name' must be str, not dict"))
    | _ => Operation.ofThing? "module" name name
  | function => match name with
    | "__class__" => some (.ofClass "function" "function() argument 'code' must be code, not dict")
    | "__init__" => some (.bound (.answers "NoneType"))
    | "__get__" => some (.bound (.answers "function"))
    | _ => Operation.ofThing? "function" ("function." ++ name) name
  | group g => Operation.ofGroup? g name
  | text => match name with
    | "__class__" =>
      some (.ofClass "str" "str() argument 'encoding' must be str, not PropertyContext")
    | "__init__" => some (.bound (.answers "NoneType"))
    | _ => (Operation.ofText? name).or (Operation.ofThing? "str" ("str." ++ name) name)
  | other kind =>
    if name = "__class__" then some (.ofClass kind (kind ++ "() takes no arguments"))
    else Operation.ofThing? kind (kind ++ "." ++ name) name

end Holder

end ApiTypes.Hook
