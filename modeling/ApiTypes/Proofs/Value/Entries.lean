import ApiTypes.Value.Basic

/-!
# Looking up what was written

Writing to a key of a mapping changes what is found at that key and at no other one, and so
does removing it. The keywords of schemas are keys that are strings, and as a key a string
is the same as itself only (`ApiTypes.Value.sameKey_str_right`). If no two entries have the
same string as their key, their order does not matter to look-ups of strings
(`ApiTypes.Entries.field?_perm`).
-/

namespace ApiTypes

namespace Value

/-- Nothing but a string is the same key as a string. -/
theorem sameKey_str_right {k : Value} {s : String} : k.sameKey (str s) ↔ k = str s := by
  cases k with
  | str t => simp
  | _ => simp [sameKey, toInteger?]

end Value

namespace Entries

variable {es : Entries} {key v : Value} {name : String}

theorem field?_cons (e : Value × Value) (es : Entries) (name : String) :
    field? (e :: es) name = if e.1.sameKey (.str name) then some e.2 else field? es name := rfl

theorem get?_insert_str (v : Value) (es : Entries) :
    get? (.str name) (insert (.str name) v es) = some v := by
  induction es with
  | nil => simp [insert, get?]
  | cons e es ih =>
    obtain ⟨k, w⟩ := e
    rw [insert]
    split
    · next h => rw [get?, if_pos h]
    · next h => rw [get?, if_neg h, ih]

theorem get?_insert_of_ne {s : String} (h : s ≠ name) (v : Value) (es : Entries) :
    get? (.str s) (insert (.str name) v es) = get? (.str s) es := by
  induction es with
  | nil => simp [insert, get?, h.symm]
  | cons e es ih =>
    obtain ⟨k, w⟩ := e
    rw [insert]
    split
    · next hk =>
      obtain rfl := Value.sameKey_str_right.1 hk
      have hne : ¬(Value.str name).sameKey (.str s) := by simp [h.symm]
      rw [get?, if_neg hne, get?, if_neg hne]
    · rw [get?, get?, ih]

theorem get?_erase_str (es : Entries) : get? (.str name) (erase (.str name) es) = none := by
  induction es with
  | nil => rfl
  | cons e es ih =>
    obtain ⟨k, w⟩ := e
    rw [erase, List.filter_cons]
    split
    · next h => rw [get?, if_neg (by simpa using h)]; exact ih
    · exact ih

theorem get?_erase_of_ne {s : String} (h : s ≠ name) (es : Entries) :
    get? (.str s) (erase (.str name) es) = get? (.str s) es := by
  induction es with
  | nil => rfl
  | cons e es ih =>
    obtain ⟨k, w⟩ := e
    rw [erase, List.filter_cons]
    split
    · rw [get?, get?, ← ih]; rfl
    · next hk =>
      obtain rfl : k = .str name := Value.sameKey_str_right.1 (by simpa using hk)
      rw [get?, if_neg (by simp [h.symm]), ← ih]
      rfl

/-- **Writing changes the value of one keyword.** -/
theorem field?_insert (s : String) (v : Value) (es : Entries) :
    field? (insert (.str name) v es) s = if s = name then some v else field? es s := by
  split
  · next h => rw [h]; exact get?_insert_str v es
  · next h => exact get?_insert_of_ne h v es

/-- **Removing changes the value of one keyword.** -/
theorem field?_erase (s : String) (es : Entries) :
    field? (erase (.str name) es) s = if s = name then none else field? es s := by
  split
  · next h => rw [h]; exact get?_erase_str es
  · next h => exact get?_erase_of_ne h es

/-! ### The order of the entries -/

/-- The keys that are strings, in the order of their entries. -/
def stringKeys (es : Entries) : List String := es.filterMap fun e => e.1.str?

theorem mem_stringKeys {name : String} {es : Entries} :
    name ∈ stringKeys es ↔ ∃ v, (.str name, v) ∈ es := by
  rw [stringKeys, List.mem_filterMap]
  constructor
  · rintro ⟨⟨k, v⟩, he, hk⟩
    cases k with
    | str s =>
      obtain rfl := Option.some.inj hk
      exact ⟨v, he⟩
    | _ => simp [Value.str?] at hk
  · rintro ⟨v, he⟩
    exact ⟨(.str name, v), he, rfl⟩

/-- A look-up finds each entry, if no two keys are the same string. -/
theorem field?_eq_some_iff_mem {es : Entries} (h : (stringKeys es).Nodup) {name : String}
    {v : Value} : field? es name = some v ↔ (.str name, v) ∈ es := by
  induction es with
  | nil => simp [field?, get?]
  | cons e es ih =>
    obtain ⟨k, w⟩ := e
    have hes : (stringKeys es).Nodup := by
      rw [stringKeys, List.filterMap_cons] at h
      split at h
      · exact h
      · exact (List.nodup_cons.1 h).2
    rw [field?_cons, List.mem_cons, Prod.mk.injEq]
    by_cases hk : k.sameKey (.str name)
    · obtain rfl := Value.sameKey_str_right.1 hk
      -- the first entry is the only one with this key
      have hname : name ∉ stringKeys es :=
        (List.nodup_cons.1 (show (name :: stringKeys es).Nodup from h)).1
      have hrest : (.str name, v) ∉ es := fun hmem => hname (mem_stringKeys.2 ⟨v, hmem⟩)
      rw [if_pos hk, Option.some.injEq, eq_comm, and_iff_right rfl, or_iff_left hrest]
    · have hne : ¬Value.str name = k := fun hn => hk (Value.sameKey_str_right.2 hn.symm)
      rw [if_neg hk, ih hes, or_iff_right fun hfirst => hne hfirst.1]

/-- **Look-ups do not depend on the order of the entries.** -/
theorem field?_perm {es fs : Entries} (hperm : es.Perm fs) (h : (stringKeys es).Nodup)
    (name : String) : field? es name = field? fs name := by
  have hfs : (stringKeys fs).Nodup := (hperm.filterMap _).nodup_iff.1 h
  refine Option.ext fun v => ?_
  rw [field?_eq_some_iff_mem h, field?_eq_some_iff_mem hfs, hperm.mem_iff]

end Entries

end ApiTypes
