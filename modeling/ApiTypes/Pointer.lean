import ApiTypes.TypeScript.Expr

/-!
# Pointers to schemas

A pointer such as `#/components/schemas/Pet` names the way to a schema, segment by
segment. Inside a segment `~1` stands for a slash and `~0` for a tilde. A pointer is
turned into an indexed access, whose root is the first segment and whose keys are the
others, without looking whether there is a schema at that place.

`ApiTypes.Pointer.ofSegments` writes a local pointer, `ApiTypes.Pointer.segments` reads
one.
-/

namespace ApiTypes.Pointer

/-- A segment with its escapes undone. -/
def decode (segment : Text) : Text :=
  Text.replacePair '~' '0' ['~'] (Text.replacePair '~' '1' ['/'] segment)

/-- A segment with its tildes and slashes escaped. -/
def encode (segment : Text) : Text :=
  segment.flatMap fun c =>
    if c = '~' then ['~', '0'] else if c = '/' then ['~', '1'] else [c]

/-- A pointer without the mark of a local pointer in front of it. -/
def localPart : Text → Text
  | '#' :: '/' :: rest => rest
  | path => path

/-- **The segments of a pointer.** -/
def segments (path : Text) : List Text := (Text.split '/' (localPart path)).map decode

/-- The local pointer with the given segments. -/
def ofSegments (segs : List Text) : Text := '#' :: '/' :: Text.join ['/'] (segs.map encode)

/-- The type that a pointer names. -/
def type (path : Text) : TypeScript.TypeExpr :=
  match segments path with
  | [] => .nothing
  | root :: keys => .name root keys

/-! ### The root of a pointer -/

/-- The root of the type that a pointer names: its first segment. -/
def root (path : Text) : Text := (segments path).headD []

theorem segments_ne_nil (path : Text) : segments path ≠ [] := by
  simp [segments, Text.split_ne_nil]

/-- A pointer names an indexed access from its root. -/
theorem type_eq (path : Text) : type path = .name (root path) (segments path).tail := by
  obtain ⟨r, keys, h⟩ := List.exists_cons_of_ne_nil (segments_ne_nil path)
  simp [type, root, h]

end ApiTypes.Pointer
