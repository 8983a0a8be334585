import ApiTypes.Value.Basic

/-!
# Equality of values

`ApiTypes.Value.equal` compares two values by what they mean: numbers and truth values
by their exact value, lists item by item, mappings without regard to the order of their
entries. It is the comparison of the condition of a property hook. The equality `=` of
values is finer: it tells the integer one from the double one; `ApiTypes.Value.decEq`
decides it.
-/

namespace ApiTypes.Value

mutual

/-- **The same meaning.** -/
def equal : Value → Value → Bool
  | list xs, w =>
    match w with
    | list ys => equalItems xs ys
    | _ => false
  | map es, w =>
    match w with
    | map fs => es.length = fs.length && equalEntries es fs
    | _ => false
  | set xs, w =>
    match w with
    | set ys => xs.length = ys.length && equalMembers xs ys
    | _ => false
  | pair a b, w =>
    match w with
    | pair c d => equal a c && equal b d
    | _ => false
  | v, w => v.sameKey w
termination_by structural v => v

/-- Item by item the same meaning. -/
def equalItems : List Value → List Value → Bool
  | [], ys => ys.isEmpty
  | x :: xs, ys =>
    match ys with
    | y :: ys => equal x y && equalItems xs ys
    | [] => false
termination_by structural xs => xs

/-- Every entry has a partner with the same key and a value of the same meaning. -/
def equalEntries : List (Value × Value) → List (Value × Value) → Bool
  | [], _ => true
  | (k, v) :: rest, fs =>
    (match Entries.get? k fs with
      | some w => equal v w
      | none => false) && equalEntries rest fs
termination_by structural es => es

/-- Every member is the same key as one of the other set. -/
def equalMembers : List Value → List Value → Bool
  | [], _ => true
  | x :: xs, ys => ys.any x.sameKey && equalMembers xs ys
termination_by structural xs => xs

end

/-! ### Deciding equality -/

mutual

/-- Decides whether two values are equal. -/
def decEq : (v w : Value) → Decidable (v = w)
  | null, w => by
    cases w with
    | null => exact isTrue rfl
    | _ => exact isFalse nofun
  | bool a, w => by
    cases w with
    | bool b => exact decidable_of_iff (a = b) (by simp)
    | _ => exact isFalse nofun
  | int a, w => by
    cases w with
    | int b => exact decidable_of_iff (a = b) (by simp)
    | _ => exact isFalse nofun
  | float a, w => by
    cases w with
    | float b => exact decidable_of_iff (a = b) (by simp)
    | _ => exact isFalse nofun
  | nan a, w => by
    cases w with
    | nan b => exact decidable_of_iff (a = b) (by simp)
    | _ => exact isFalse nofun
  | str a, w => by
    cases w with
    | str b => exact decidable_of_iff (a = b) (by simp)
    | _ => exact isFalse nofun
  | list a, w => by
    cases w with
    | list b => exact @decidable_of_iff _ (a = b) (by simp) (decEqItems a b)
    | _ => exact isFalse nofun
  | map a, w => by
    cases w with
    | map b => exact @decidable_of_iff _ (a = b) (by simp) (decEqEntries a b)
    | _ => exact isFalse nofun
  | date a, w => by
    cases w with
    | date b => exact decidable_of_iff (a = b) (by simp)
    | _ => exact isFalse nofun
  | moment a, w => by
    cases w with
    | moment b => exact decidable_of_iff (a = b) (by simp)
    | _ => exact isFalse nofun
  | bytes a, w => by
    cases w with
    | bytes b => exact decidable_of_iff (a = b) (by simp)
    | _ => exact isFalse nofun
  | set a, w => by
    cases w with
    | set b => exact @decidable_of_iff _ (a = b) (by simp) (decEqItems a b)
    | _ => exact isFalse nofun
  | pair a b, w => by
    cases w with
    | pair c d =>
      exact @decidable_of_iff _ (a = c ∧ b = d) (by simp)
        (@instDecidableAnd _ _ (decEq a c) (decEq b d))
    | _ => exact isFalse nofun
termination_by structural v => v

/-- Decides whether two lists of values are equal. -/
def decEqItems : (vs ws : List Value) → Decidable (vs = ws)
  | [], ws => by
    cases ws with
    | nil => exact isTrue rfl
    | cons => exact isFalse nofun
  | v :: vs, ws => by
    cases ws with
    | nil => exact isFalse nofun
    | cons w ws =>
      exact @decidable_of_iff _ (v = w ∧ vs = ws) (by simp)
        (@instDecidableAnd _ _ (decEq v w) (decEqItems vs ws))
termination_by structural vs => vs

/-- Decides whether two mappings have the same entries in the same order. -/
def decEqEntries : (es fs : List (Value × Value)) → Decidable (es = fs)
  | [], fs => by
    cases fs with
    | nil => exact isTrue rfl
    | cons => exact isFalse nofun
  | (k, v) :: es, fs => by
    cases fs with
    | nil => exact isFalse nofun
    | cons f fs =>
      exact @decidable_of_iff _ ((k = f.1 ∧ v = f.2) ∧ es = fs) (by simp [Prod.ext_iff])
        (@instDecidableAnd _ _ (@instDecidableAnd _ _ (decEq k f.1) (decEq v f.2))
          (decEqEntries es fs))
termination_by structural es => es

end

instance : DecidableEq Value := decEq

end ApiTypes.Value
