import ApiTypes.Proofs.Hook.Answers

/-!
# The required names in the end

The list of required names is edited while the pass goes through the properties, once for each
answer of the hook: a name is removed, or it is put behind the others if it is not among them, and
a list is made if there has been none. In the end the list is what it has been
(`ApiTypes.Hook.requiredAfter`), but for the names of properties that have turned out to be
optional, and behind that are the names of those that have turned out not to be. This is so if no
two properties have one name (`ApiTypes.Hook.requireAll_eq`).
-/

namespace ApiTypes.Hook

variable {name : Text} {answers : List (Text × Bool)}

/-- The required names after some answers, which say of names whether they are optional. -/
def requireAll (required : Option (List Text)) (answers : List (Text × Bool)) :
    Option (List Text) :=
  answers.foldl (fun required a => require required a.1 a.2) required

/-- The names about which the answers say one thing or the other, in their order. -/
def namesWith (optional : Bool) (answers : List (Text × Bool)) : List Text :=
  (answers.filter fun a => a.2 = optional).map (·.1)

/-- **The required names in the end**: those of before without the optional ones, and behind them
the others that are not among those of before. Without names of before there is no list if nothing
is to be in it. -/
def requiredAfter (required : Option (List Text)) (answers : List (Text × Bool)) :
    Option (List Text) :=
  match required with
  | some names =>
    some (names.filter (· ∉ namesWith true answers) ++
      (namesWith false answers).filter (· ∉ names))
  | none => if namesWith false answers = [] then none else some (namesWith false answers)

theorem namesWith_subset {optional : Bool} {n : Text} (h : n ∈ namesWith optional answers) :
    n ∈ answers.map (·.1) := by
  obtain ⟨a, ha, rfl⟩ := List.mem_map.1 h
  exact List.mem_map_of_mem (List.mem_filter.1 ha).1

theorem namesWith_cons (optional : Bool) (a : Text × Bool) (answers : List (Text × Bool)) :
    namesWith optional (a :: answers) =
      if a.2 = optional then a.1 :: namesWith optional answers
      else namesWith optional answers := by
  unfold namesWith
  by_cases h : a.2 = optional
  · rw [List.filter_cons_of_pos (by simpa using h), if_pos h, List.map_cons]
  · rw [List.filter_cons_of_neg (by simpa using h), if_neg h]

section Step

variable (hname : name ∉ answers.map (·.1))
include hname

/-- Lists that differ in one name only are alike for answers about other names. -/
theorem filter_namesWith_congr (names names' : List Text)
    (h : ∀ n, n ≠ name → (n ∈ names' ↔ n ∈ names)) :
    (namesWith false answers).filter (· ∉ names') =
      (namesWith false answers).filter (· ∉ names) := by
  refine List.filter_congr fun n hn => ?_
  have hne : n ≠ name := by
    rintro rfl
    exact hname (namesWith_subset hn)
  rw [decide_eq_decide, h n hne]

/-- **One answer**, followed by answers about other names. -/
theorem requiredAfter_require (required : Option (List Text)) (optional : Bool) :
    requiredAfter (require required name optional) answers =
      requiredAfter required ((name, optional) :: answers) := by
  have hnot : name ∉ namesWith true answers := fun hmem => hname (namesWith_subset hmem)
  have hself : [name].filter (· ∉ namesWith true answers) = [name] := by simp [hnot]
  cases optional with
  | true =>
    cases required with
    | none => simp [require, requiredAfter, namesWith_cons]
    | some names =>
      simp only [require, requiredAfter, namesWith_cons, if_true, Bool.true_eq_false, if_false]
      rw [filter_namesWith_congr hname names (names.filter (· ≠ name)) fun n hn => by simp [hn],
        List.filter_filter]
      refine congrArg (fun kept => some (kept ++ _)) (List.filter_congr fun n _ => ?_)
      by_cases hn : n = name <;> simp [hn]
  | false =>
    cases required with
    | none =>
      have hnone : (namesWith false answers).filter (· ∉ [name]) = namesWith false answers := by
        rw [filter_namesWith_congr hname [] [name] fun n hn => by simp [hn]]
        simp
      simp only [require, requiredAfter, namesWith_cons, if_true]
      rw [hself, hnone, if_neg (by simp)]
      rfl
    | some names =>
      by_cases hmem : name ∈ names
      · simp [require, requiredAfter, namesWith_cons, hmem]
      · simp only [require, requiredAfter, namesWith_cons, if_neg hmem, if_true, Bool.false_eq_true,
          if_false]
        rw [List.filter_append, hself,
          filter_namesWith_congr hname names (names ++ [name]) fun n hn => by simp [hn],
          List.append_assoc, List.singleton_append, List.filter_cons_of_pos (by simpa using hmem)]

end Step

/-- **The edits of the list come to this**, if no name is answered about twice. -/
theorem requireAll_eq (h : (answers.map (·.1)).Nodup) (required : Option (List Text)) :
    requireAll required answers = requiredAfter required answers := by
  induction answers generalizing required with
  | nil =>
    cases required with
    | none => rfl
    | some names =>
      have hkept : names.filter (· ∉ namesWith true []) = names :=
        List.filter_eq_self.2 fun _ _ => rfl
      rw [requiredAfter, hkept]
      exact congrArg some (List.append_nil names).symm
  | cons a answers ih =>
    obtain ⟨hname, hrest⟩ := List.nodup_cons.1 h
    exact (ih hrest (require required a.1 a.2)).trans (requiredAfter_require hname required a.2)

/-- A name that has turned out to be optional goes wherever it is, and a new one comes last. -/
example : requireAll (some ["id".toList, "name".toList, "id".toList])
    [("id".toList, true), ("tag".toList, false)] = some ["name".toList, "tag".toList] := by
  decide +kernel

end ApiTypes.Hook
