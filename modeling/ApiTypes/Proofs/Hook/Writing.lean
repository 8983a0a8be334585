import ApiTypes.Proofs.Hook.Total

/-!
# What writing leaves as it is

The pass writes keywords of a mapping and removes some. Whatever it writes, the entries with other
keys stay as they are and in their order (`ApiTypes.Hook.without_setField`,
`ApiTypes.Hook.without_replaceField`), and a key gets a place behind the others only if it has had
none (`ApiTypes.Hook.keys_insert`).
-/

namespace ApiTypes.Hook

open Schema

variable {names : List String} {name : String}

/-- The entries whose keys are none of some keywords. -/
def without (names : List String) (es : Entries) : Entries :=
  es.filter fun e => !isKeyword names e.1

/-- The value of a keyword that is to be written, unless it is null: then it is removed. -/
def present? : Value → Option Value
  | .null => none
  | v => some v

theorem isKeyword_of_sameKey {k : Value} (hname : name ∈ names) (h : k.sameKey (.str name)) :
    isKeyword names k := by
  obtain rfl := Value.sameKey_str_right.1 h
  simpa [isKeyword, Value.str?] using hname

theorem without_insert (h : name ∈ names) (v : Value) (es : Entries) :
    without names (Entries.insert (.str name) v es) = without names es := by
  unfold without
  induction es with
  | nil => simp [Entries.insert, isKeyword, Value.str?, h]
  | cons e es ih =>
    obtain ⟨k, w⟩ := e
    rw [Entries.insert]
    split
    · next hk =>
      have hkeyword := isKeyword_of_sameKey h hk
      rw [List.filter_cons_of_neg (by simpa using hkeyword),
        List.filter_cons_of_neg (by simpa using hkeyword)]
    · rw [List.filter_cons, List.filter_cons, ih]

theorem without_erase (h : name ∈ names) (es : Entries) :
    without names (Entries.erase (.str name) es) = without names es := by
  rw [without, without, Entries.erase, List.filter_filter]
  refine List.filter_congr fun e _ => ?_
  by_cases hk : e.1.sameKey (.str name)
  · simp [isKeyword_of_sameKey h hk]
  · simp [hk]

theorem without_setField (h : name ∈ names) (v : Value) (es : Entries) :
    without names (setField name v es) = without names es := by
  cases v with
  | null => exact without_erase h es
  | _ => exact without_insert h _ es

theorem without_replaceField (h : name ∈ names) (o : Option Value) (es : Entries) :
    without names (replaceField name o es) = without names es := by
  cases o with
  | none => rfl
  | some v => exact without_insert h v es

/-- What is found at another keyword is found among the other entries. -/
theorem field?_without (h : name ∉ names) (es : Entries) :
    Entries.field? (without names es) name = Entries.field? es name := by
  induction es with
  | nil => rfl
  | cons e es ih =>
    rw [without, List.filter_cons, Entries.field?_cons]
    by_cases hk : e.1.sameKey (.str name)
    · have hother : isKeyword names e.1 = false := by
        rw [Value.sameKey_str_right.1 hk]
        simpa [isKeyword, Value.str?] using h
      rw [hother, Bool.not_false, if_pos rfl, Entries.field?_cons, if_pos hk, if_pos hk]
    · rw [if_neg hk, ← ih]
      split
      · rw [Entries.field?_cons, if_neg hk, without]
      · rfl

theorem field?_setField (s : String) (v : Value) (es : Entries) :
    Entries.field? (setField name v es) s =
      if s = name then present? v else Entries.field? es s := by
  cases v with
  | null => exact Entries.field?_erase s es
  | _ => exact Entries.field?_insert s _ es

theorem field?_replaceField (s : String) (o : Option Value) (es : Entries) :
    Entries.field? (replaceField name o es) s =
      if s = name then o.or (Entries.field? es name) else Entries.field? es s := by
  cases o with
  | none =>
    split
    · next h => rw [h, Option.none_or]; rfl
    · rfl
  | some v => exact Entries.field?_insert s v es

/-- Writing adds the key if it is not there yet, and leaves the other keys where they are. -/
theorem keys_insert (v : Value) (es : Entries) :
    (Entries.insert (.str name) v es).map (·.1) =
      es.map (·.1) ++ if (Entries.field? es name).isSome then [] else [.str name] := by
  induction es with
  | nil => rfl
  | cons e es ih =>
    obtain ⟨k, w⟩ := e
    rw [Entries.insert, Entries.field?_cons]
    split
    · simp
    · rw [List.map_cons, ih]
      rfl

theorem keys_replaceField {o : Option Value} (es : Entries)
    (h : o.isSome → (Entries.field? es name).isSome) :
    (replaceField name o es).map (·.1) = es.map (·.1) := by
  cases o with
  | none => rfl
  | some v => rw [replaceField, keys_insert, if_pos (h rfl), List.append_nil]

end ApiTypes.Hook
