import ApiTypes.Proofs.Hook.Total

/-!
# One level of the pass

The pass is written for any monad, and so is this file. It takes one level of the pass apart: the
schemas outside of the properties are rebuilt (`ApiTypes.Hook.rebuildInner`) and written into the
schema (`ApiTypes.Hook.Inner.write`), then the properties are rebuilt, and then the hook is asked
about them (`ApiTypes.Hook.rebuildLevel_eq`).

The number of levels that the pass is given makes no difference, as long as there are enough of
them, and so the pass over a schema is one level with the pass itself below
(`ApiTypes.Hook.mapSchema_map`).
-/

namespace ApiTypes.Hook

open Schema

variable {m : Type → Type} [Monad m] {hook : Hook m} {f f' : Value → m Value} {es : Entries}

/-- **What has become of the schemas outside of the properties**, where there are such schemas. -/
structure Inner where
  /-- The items of an array. -/
  items : Option Value
  /-- The schemas that are extended. -/
  allOf : Option Value
  /-- The variants, of which one holds. -/
  oneOf : Option Value
  /-- The variants, of which some hold. -/
  anyOf : Option Value
  /-- The further properties. -/
  additional : Option Value

/-- Writes them into the schema that they are in. -/
def Inner.write (inner : Inner) (es : Entries) : Entries :=
  replaceField "additionalProperties" inner.additional <| replaceField "anyOf" inner.anyOf <|
    replaceField "oneOf" inner.oneOf <| replaceField "allOf" inner.allOf <|
      replaceField "items" inner.items es

/-- Rebuilds the schemas outside of the properties. -/
def rebuildInner (f : Value → m Value) (es : Entries) : m Inner := do
  let items ← rebuildItems f (Entries.field? es "items")
  let allOf ← rebuildList f (Entries.field? es "allOf")
  let oneOf ← rebuildList f (Entries.field? es "oneOf")
  let anyOf ← rebuildList f (Entries.field? es "anyOf")
  let additional ← rebuildMap f (Entries.field? es "additionalProperties")
  pure ⟨items, allOf, oneOf, anyOf, additional⟩

/-- Rebuilds some properties. -/
def rebuildProperties (f : Value → m Value) (properties : Entries) : m Entries :=
  properties.mapM fun e => do pure (e.1, ← f e.2)

/-- A schema with what has become of its properties and of its required names. -/
def settled (inner : Inner) (es : Entries) (outcome : Entries × Option (List Text)) : Entries :=
  replaceField "required" (outcome.2.map namesValue)
    (Entries.insert (.str "properties") (.map outcome.1) (inner.write es))

theorem field?_write_of_not_mem {name : String} (h : name ∉ innerKeywords) (inner : Inner)
    (es : Entries) : Entries.field? (inner.write es) name = Entries.field? es name := by
  simp only [innerKeywords, List.mem_cons, List.not_mem_nil, not_or] at h
  rw [Inner.write, field?_replaceField_of_ne h.1, field?_replaceField_of_ne h.2.1,
    field?_replaceField_of_ne h.2.2.1, field?_replaceField_of_ne h.2.2.2.1,
    field?_replaceField_of_ne h.2.2.2.2.1]

theorem requiredOf_write (inner : Inner) (es : Entries) :
    requiredOf (inner.write es) = requiredOf es := by
  rw [requiredOf, listField?, field?_write_of_not_mem (by decide)]
  rfl

variable [LawfulMonad m]

/-- **One level of the pass**, by its parts. -/
theorem rebuildLevel_eq (f : Value → m Value) (hook : Hook m) (es : Entries) :
    rebuildLevel f hook es = (do
      let inner ← rebuildInner f es
      match Entries.field? es "properties" with
      | some (.map properties) => do
        let rebuilt ← rebuildProperties f properties
        let outcome ← mapProperties hook (requiredOf es) rebuilt
        pure (settled inner es outcome)
      | _ => pure (inner.write es)) := by
  rw [rebuildLevel, rebuildInner]
  simp only [bind_assoc, pure_bind]
  refine bind_congr fun items => bind_congr fun allOf => bind_congr fun oneOf =>
    bind_congr fun anyOf => bind_congr fun additional => ?_
  generalize hinner : (Inner.mk items allOf oneOf anyOf additional) = inner
  have hwrite : replaceField "additionalProperties" additional (replaceField "anyOf" anyOf
      (replaceField "oneOf" oneOf (replaceField "allOf" allOf (replaceField "items" items es)))) =
      inner.write es := by rw [← hinner]; rfl
  rw [hwrite, field?_write_of_not_mem (by decide), requiredOf_write]
  cases Entries.field? es "properties" with
  | none => rfl
  | some v =>
    cases v with
    | map properties =>
      refine bind_congr fun rebuilt => bind_congr fun outcome => ?_
      obtain ⟨mapped, required⟩ := outcome
      cases required <;> rfl
    | _ => rfl

/-! ### The number of levels -/

theorem mapM_congr_of_mem {α β : Type} {f f' : α → m β} {l : List α}
    (h : ∀ a ∈ l, f a = f' a) : l.mapM f = l.mapM f' := by
  induction l with
  | nil => rfl
  | cons a l ih =>
    rw [List.forall_mem_cons] at h
    rw [List.mapM_cons, List.mapM_cons, h.1, ih h.2]

theorem rebuildList_congr {o : Option Value}
    (h : ∀ v, o = some v → ∀ w : Value, w.depth < v.depth → f w = f' w) :
    rebuildList f o = rebuildList f' o := by
  cases o with
  | none => rfl
  | some v =>
    cases v with
    | list items =>
      have hitems : items.mapM f = items.mapM f' :=
        mapM_congr_of_mem fun w hw => h _ rfl w (Value.depth_of_mem_list hw)
      rw [rebuildList, rebuildList, hitems]
    | _ => rfl

omit [LawfulMonad m] in
theorem rebuildMap_congr {o : Option Value} (h : ∀ v, o = some v → f v = f' v) :
    rebuildMap f o = rebuildMap f' o := by
  cases o with
  | none => rfl
  | some v =>
    cases v with
    | map es => rw [rebuildMap, rebuildMap, h _ rfl]
    | _ => rfl

/-- One level depends only on what is done with the schemas below it. -/
theorem rebuildLevel_congr (h : ∀ v : Value, v.depth < (Value.map es).depth → f v = f' v) :
    rebuildLevel f hook es = rebuildLevel f' hook es := by
  have hlist : ∀ name, rebuildList f (Entries.field? es name) =
      rebuildList f' (Entries.field? es name) :=
    fun name => rebuildList_congr fun v hv w hw => h w (by
      have := Entries.depth_of_get? hv
      omega)
  have hmap : ∀ name, rebuildMap f (Entries.field? es name) =
      rebuildMap f' (Entries.field? es name) :=
    fun name => rebuildMap_congr fun v hv => h v (Entries.depth_of_get? hv)
  have hitems : rebuildItems f (Entries.field? es "items") =
      rebuildItems f' (Entries.field? es "items") := by
    have hl := hlist "items"
    have hm := hmap "items"
    unfold rebuildItems
    split
    · next items heq => rwa [heq] at hl
    · exact hm
  have hinner : rebuildInner f es = rebuildInner f' es := by
    rw [rebuildInner, rebuildInner, hitems, hlist, hlist, hlist, hmap]
  rw [rebuildLevel_eq, rebuildLevel_eq, hinner]
  refine bind_congr fun inner => ?_
  split
  · next properties heq =>
    have hprops : rebuildProperties f properties = rebuildProperties f' properties := by
      refine mapM_congr_of_mem fun e he => ?_
      have hfield := Entries.depth_of_get? heq
      rw [h e.2 (Nat.lt_trans (Value.depth_of_mem_map (k := e.1) he) hfield)]
    rw [hprops]
  · rfl

theorem mapSchemaAt_eq_of_depth_le {k n : Nat} {schema : Value} (hk : schema.depth ≤ k)
    (hn : schema.depth ≤ n) : mapSchemaAt hook k schema = mapSchemaAt hook n schema := by
  induction k generalizing n schema with
  | zero => have := schema.depth_pos; omega
  | succ k ih =>
    cases n with
    | zero => have := schema.depth_pos; omega
    | succ n =>
      cases schema with
      | map es =>
        have hlevel : rebuildLevel (mapSchemaAt hook k) hook es =
            rebuildLevel (mapSchemaAt hook n) hook es :=
          rebuildLevel_congr fun v hv => ih (by omega) (by omega)
        rw [mapSchemaAt, mapSchemaAt, hlevel]
      | _ => rfl

/-- **The pass over a mapping is one level of it**, with the pass itself below. -/
theorem mapSchema_map (hook : Hook m) (es : Entries) :
    mapSchema hook (.map es) = (do pure (.map (← rebuildLevel (mapSchema hook) hook es))) := by
  obtain ⟨n, hn⟩ := Nat.exists_eq_succ_of_ne_zero (Nat.ne_of_gt (Value.map es).depth_pos)
  have hlevel : rebuildLevel (mapSchemaAt hook n) hook es = rebuildLevel (mapSchema hook) hook es :=
    rebuildLevel_congr fun v hv => mapSchemaAt_eq_of_depth_le (by omega) (Nat.le_refl _)
  rw [mapSchema, hn, mapSchemaAt, hlevel]

omit [LawfulMonad m] in
/-- What is no mapping is left as it is. -/
theorem mapSchema_of_not_map {v : Value} (h : v.isMap = false) : mapSchema hook v = pure v := by
  rw [mapSchema]
  unfold mapSchemaAt
  split
  · simp [Value.isMap] at h
  · rfl

end ApiTypes.Hook
