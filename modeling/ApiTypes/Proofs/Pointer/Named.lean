import ApiTypes.Proofs.Code.Signatures
import ApiTypes.Proofs.TypeScript.Reader

/-!
# Pointers to named schemas

A pointer and the member that it points to are written in different places and by different
rules. The name of a schema is escaped as a segment of the pointer, decoded when the pointer is
read, and quoted as an index key; in front of its member it is quoted as it is. The two keys are
the same text (`ApiTypes.Pointer.type_toSchema_agrees`).

This rests on reading pointers being a left inverse of writing them
(`ApiTypes.Pointer.segments_ofSegments`). No segment has a slash in it once it is escaped, so that
the pointer is cut where its segments were joined; and the two escapes are undone in the order in
which neither makes an occurrence of the other, the one for slashes first
(`ApiTypes.Pointer.replacePair_encode`).
-/

namespace ApiTypes.Pointer

open Schema TypeScript

/-! ### Segments -/

/-- A segment in which only the tildes are escaped. -/
def escapeTildes (segment : Text) : Text :=
  segment.flatMap fun c => if c = '~' then ['~', '0'] else [c]

theorem encode_cons (c : Char) (t : Text) :
    encode (c :: t) =
      (if c = '~' then ['~', '0'] else if c = '/' then ['~', '1'] else [c]) ++ encode t := rfl

theorem escapeTildes_cons (c : Char) (t : Text) :
    escapeTildes (c :: t) = (if c = '~' then ['~', '0'] else [c]) ++ escapeTildes t := rfl

/-- **Undoing the escapes of slashes** leaves those of tildes: a tilde that is escaped is followed
by a zero, whatever comes behind it. -/
theorem replacePair_encode (t : Text) :
    Text.replacePair '~' '1' ['/'] (encode t) = escapeTildes t := by
  induction t with
  | nil => rfl
  | cons c t ih =>
    rw [encode_cons, escapeTildes_cons]
    by_cases htilde : c = '~'
    · rw [if_pos htilde, if_pos htilde]
      change Text.replacePair _ _ _ ('~' :: '0' :: encode t) = _
      rw [Text.replacePair_cons_cons (by decide), Text.replacePair_cons (by decide), ih]
      rfl
    · rw [if_neg htilde, if_neg htilde]
      by_cases hslash : c = '/'
      · rw [if_pos hslash, hslash]
        change Text.replacePair _ _ _ ('~' :: '1' :: encode t) = _
        rw [Text.replacePair_pair, ih]
      · rw [if_neg hslash, List.singleton_append, Text.replacePair_cons htilde, ih]
        rfl

theorem replacePair_escapeTildes (t : Text) :
    Text.replacePair '~' '0' ['~'] (escapeTildes t) = t := by
  induction t with
  | nil => rfl
  | cons c t ih =>
    rw [escapeTildes_cons]
    by_cases htilde : c = '~'
    · rw [if_pos htilde, htilde]
      change Text.replacePair _ _ _ ('~' :: '0' :: escapeTildes t) = _
      rw [Text.replacePair_pair, ih]
      rfl
    · rw [if_neg htilde, List.singleton_append, Text.replacePair_cons htilde, ih]

/-- **Escapes are undone.** -/
theorem decode_encode (t : Text) : decode (encode t) = t := by
  rw [decode, replacePair_encode, replacePair_escapeTildes]

theorem slash_not_mem_encode (t : Text) : '/' ∉ encode t := by
  induction t with
  | nil => simp [encode]
  | cons c t ih =>
    rw [encode_cons, List.mem_append, not_or]
    refine ⟨?_, ih⟩
    split
    · decide
    · split
      · decide
      · next hslash => simpa using Ne.symm hslash

/-- **The segments of a pointer are those that it was written with.** -/
theorem segments_ofSegments {segs : List Text} (h : segs ≠ []) :
    segments (ofSegments segs) = segs := by
  have hslash : ∀ t ∈ segs.map encode, '/' ∉ t := by
    intro t ht
    obtain ⟨segment, -, rfl⟩ := List.mem_map.1 ht
    exact slash_not_mem_encode segment
  have hlocal : localPart (ofSegments segs) = Text.join ['/'] (segs.map encode) := rfl
  rw [segments, hlocal, Text.split_join (by simpa using h) hslash, List.map_map]
  exact (List.map_congr_left fun t _ => decode_encode t).trans (List.map_id segs)

/-! ### Names -/

/-- **The pointer to a named schema**, as it is written in a description. -/
def toSchema (d : Dialect) (name : Text) : Text :=
  match d with
  | .swagger2 => "#/definitions/".toList ++ encode name
  | .openapi3 => "#/components/schemas/".toList ++ encode name

/-- The type of all named schemas together, which has a member for each of them. -/
def allSchemas : Dialect → Text
  | .swagger2 => "definitions".toList
  | .openapi3 => "components[\"schemas\"]".toList

/-- The segments in front of the name of a schema. -/
def schemasPath : Dialect → List Text
  | .swagger2 => ["definitions".toList]
  | .openapi3 => ["components".toList, "schemas".toList]

theorem toSchema_eq (d : Dialect) (name : Text) :
    toSchema d name = ofSegments (schemasPath d ++ [name]) := by
  cases d <;> rfl

theorem segments_toSchema (d : Dialect) (name : Text) :
    segments (toSchema d name) = schemasPath d ++ [name] := by
  rw [toSchema_eq, segments_ofSegments (by simp)]

theorem indexed_concat (root : Text) (keys : List Text) (key : Text) :
    Written.indexed root (keys ++ [key]) =
      Written.indexed root keys ++ '[' :: (quoteKey key ++ [']']) := by
  simp [Written.indexed]

/-- A pointer to a named schema is the index access by its quoted name. -/
theorem text_type_toSchema (d : Dialect) (name : Text) :
    (type (toSchema d name)).text = allSchemas d ++ '[' :: (quoteKey name ++ [']']) := by
  rw [type, segments_toSchema]
  cases d with
  | swagger2 => exact indexed_concat "definitions".toList [] name
  | openapi3 =>
    have hall : Written.indexed "components".toList ["schemas".toList] = allSchemas .openapi3 := by
      decide
    rw [← hall]
    exact indexed_concat "components".toList ["schemas".toList] name

/-- Different names have different quoted forms. -/
theorem quoteKey_injective {m n : Text} (h : quoteKey m = quoteKey n) : m = n := by
  rw [← unquote_quote '"' m, ← unquote_quote '"' n]
  exact congrArg unquote h

/-- A schema with the pointer to a named schema, and with other keywords behind it. -/
def reference (d : Dialect) (name : String) (siblings : Entries) : Value :=
  .map ((.str "$ref", .str (String.ofList (toSchema d name.toList))) :: siblings)

/-- It has the type of its pointer in either dialect, whatever else it says. -/
theorem typeText_reference (d e : Dialect) (name : String) (siblings : Entries) :
    typeText e (reference d name siblings) = (type (toSchema d name.toList)).text := by
  have hne : String.ofList (toSchema d name.toList) ≠ "" := by
    intro h
    have hnil := congrArg String.toList h
    rw [String.toList_ofList, toSchema_eq] at hnil
    simp [ofSegments] at hnil
  have hnode : (Node.ofValue (reference d name siblings)).shape =
      .ref (toSchema d name.toList) := by
    simp [reference, Node.ofValue, classify, Entries.field?, Entries.get?, isTruthy, Value.truthy,
      hne, Shape.ofEntries, valueField]
  rw [typeText, typeOf_eq]
  simp only [Node.typeWith, hnode]

/-- A module with a schema behind some others, up to the name of the member of the schema. -/
def moduleUpTo (d : Dialect) (before : Entries) (schema : Value) : Text :=
  moduleHead d ++ (before.flatMap fun e => entryText d e.1 e.2) ++ commentOf (Node.ofValue schema)

/-- The rest of the module behind that name: the mark of a required member, its type, and the
members of the schemas behind it. -/
def moduleFrom (d : Dialect) (schema : Value) (after : Entries) : Text :=
  ':' :: ' ' :: ((propertyType d (Node.ofValue schema) (typeOf d schema)).text ++ ';' :: '\n' ::
    ((after.flatMap fun e => entryText d e.1 e.2) ++ moduleTail d))

/-- Between the two stands the quoted name. -/
theorem moduleText_member (d : Dialect) (key schema : Value) (before after : Entries) :
    moduleText d (before ++ (key, schema) :: after) =
      moduleUpTo d before schema ++ quoteKey key.text ++ moduleFrom d schema after := by
  rw [moduleText, moduleMembers_eq, List.flatMap_append, List.flatMap_cons, moduleUpTo, moduleFrom]
  simp [entryText, Written.property]

/-- **Pointers and members agree on names.** The segments of a pointer are those that it was
written with. So a schema with the pointer to a named schema is the index access, in the type of
all named schemas, by the quoted name, which is the very text in front of the member of that name;
and pointers to schemas of different names have different types. -/
theorem type_toSchema_agrees :
    (∀ segs : List Text, segs ≠ [] → segments (ofSegments segs) = segs) ∧
    (∀ (d : Dialect) (name : String),
      (type (toSchema d name.toList)).text =
        allSchemas d ++ '[' :: (quoteKey name.toList ++ [']']) ∧
      (∀ (e : Dialect) (siblings : Entries), typeText e (reference d name siblings) =
        allSchemas d ++ '[' :: (quoteKey name.toList ++ [']'])) ∧
      ∀ (schema : Value) (before after : Entries),
        moduleText d (before ++ (.str name, schema) :: after) =
          moduleUpTo d before schema ++ quoteKey name.toList ++ moduleFrom d schema after) ∧
    ∀ (d : Dialect) (m n : Text),
      (type (toSchema d m)).text = (type (toSchema d n)).text ↔ m = n := by
  refine ⟨fun segs h => segments_ofSegments h, fun d name => ⟨text_type_toSchema d _,
    fun e siblings => ?_, moduleText_member d (.str name)⟩,
    fun d m n => ⟨fun h => ?_, fun h => ?_⟩⟩
  · rw [typeText_reference, text_type_toSchema]
  · rw [text_type_toSchema, text_type_toSchema, List.append_cancel_left_eq, List.cons.injEq,
      List.append_cancel_right_eq] at h
    exact quoteKey_injective h.2
  · rw [h]

/-- Segments with a tilde in front of a digit, with a slash, and without a character. -/
def awkwardSegments : List Text := ["~1".toList, "a/b~0".toList, []]

/-- They are read back, and a name with both escapes and with a quote is quoted once. -/
theorem type_toSchema_awkward : awkwardSegments ≠ [] ∧
    segments (ofSegments awkwardSegments) = awkwardSegments ∧
    toSchema .openapi3 "~1/\"".toList = "#/components/schemas/~01~1\"".toList ∧
    (type (toSchema .openapi3 "~1/\"".toList)).text =
      "components[\"schemas\"][\"~1/\\\"\"]".toList := by
  have hne : awkwardSegments ≠ [] := by decide
  exact ⟨hne, type_toSchema_agrees.1 awkwardSegments hne, by decide, by decide⟩

end ApiTypes.Pointer
