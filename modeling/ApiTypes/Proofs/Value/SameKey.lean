import ApiTypes.Value.Basic
import Mathlib

/-!
# When keys are the same

Two values are the same key if they have one key in common (`ApiTypes.Value.sameKey_iff`): a number
and a truth value have the integer that they are equal to, a moment has an instant, and most other
values have themselves. So two values that are the same key as a third one are the same key as each
other.

What has to be shown for that is about doubles. Two doubles that are equal to one integer are equal,
though the integer is computed from the exponent and the mantissa of each: both are read off the
size of a double (`ApiTypes.Value.size_inj`), which the integer determines
(`ApiTypes.Value.size_of_integer?`).
-/

namespace ApiTypes.Value

open Decimal

/-! ### Doubles and integers -/

/-- Whether a double has the sign bit. -/
def signed (x : Float) : Bool := x.toBits.toNat / Nat.pow 2 63 = 1

/-- The bits of the exponent of a double. -/
def biased (x : Float) : Nat := x.toBits.toNat / Nat.pow 2 52 % Nat.pow 2 11

/-- The bits of the mantissa of a double. -/
def fraction (x : Float) : Nat := x.toBits.toNat % Nat.pow 2 52

/-- **The size of a double**, in units of the least positive double. -/
def size (b f : Nat) : Nat := if b = 0 then f else (f + 2 ^ 52) * 2 ^ (b - 1)

theorem classify_eq (x : Float) :
    classify x =
      if biased x = 2047 then if fraction x = 0 then .infinite (signed x) else .nan
      else if biased x = 0 then
        if fraction x = 0 then .zero (signed x) else .finite (signed x) ⟨fraction x, -1074, false⟩
      else .finite (signed x) ⟨fraction x + Nat.pow 2 52, (biased x : Int) - 1075,
        fraction x = 0 ∧ 1 < biased x⟩ := rfl

theorem fraction_lt (x : Float) : fraction x < 2 ^ 52 := Nat.mod_lt _ (by decide)

/-- A double is given by its bits. -/
theorem eq_of_parts {x y : Float} (hsigned : signed x = signed y) (hbiased : biased x = biased y)
    (hfraction : fraction x = fraction y) : x = y := by
  have hx := x.toBits.toNat_lt
  have hy := y.toBits.toNat_lt
  simp only [signed, biased, fraction, decide_eq_decide, Nat.pow_eq, Nat.reducePow]
    at hsigned hbiased hfraction hx hy
  refine Float.toBits_inj.1 (UInt64.toNat_inj.1 ?_)
  omega

theorem size_lt_of_lt {b b' f f' : Nat} (hf : f < 2 ^ 52) (hb : b < b') :
    size b f < size b' f' := by
  have hb' : b' ≠ 0 := by omega
  rw [size, size, if_neg hb']
  split
  · calc f < 2 ^ 52 := hf
      _ ≤ f' + 2 ^ 52 := Nat.le_add_left _ _
      _ ≤ (f' + 2 ^ 52) * 2 ^ (b' - 1) := Nat.le_mul_of_pos_right _ (Nat.two_pow_pos _)
  · next hzero =>
    calc (f + 2 ^ 52) * 2 ^ (b - 1) < (2 ^ 52 * 2) * 2 ^ (b - 1) :=
          Nat.mul_lt_mul_of_pos_right (by omega) (Nat.two_pow_pos _)
      _ = 2 ^ 52 * 2 ^ b := by
          rw [Nat.mul_assoc, ← Nat.pow_succ', Nat.succ_eq_add_one, Nat.sub_add_cancel (by omega)]
      _ ≤ (f' + 2 ^ 52) * 2 ^ (b' - 1) :=
          Nat.mul_le_mul (Nat.le_add_left _ _) (Nat.pow_le_pow_right (by decide) (by omega))

/-- **Exponent and mantissa are read off the size.** -/
theorem size_inj {b b' f f' : Nat} (hf : f < 2 ^ 52) (hf' : f' < 2 ^ 52)
    (h : size b f = size b' f') : b = b' ∧ f = f' := by
  rcases Nat.lt_trichotomy b b' with hb | rfl | hb
  · exact absurd h (Nat.ne_of_lt (size_lt_of_lt hf hb))
  · refine ⟨rfl, ?_⟩
    rw [size, size] at h
    split at h
    · exact h
    · exact Nat.add_right_cancel (Nat.eq_of_mul_eq_mul_right (Nat.two_pow_pos _) h)
  · exact absurd h.symm (Nat.ne_of_lt (size_lt_of_lt hf' hb))

/-- The integer of a finite double, without its sign, determines the size. -/
theorem mul_of_div_mul {m k : Nat} {e : Int} (he : -1074 ≤ e)
    (h : k * 2 ^ (-e).toNat = m * 2 ^ e.toNat) : k * 2 ^ 1074 = m * 2 ^ (e + 1074).toNat := by
  rcases Int.le_total 0 e with hpos | hneg
  · have hzero : (-e).toNat = 0 := by omega
    rw [hzero, Nat.pow_zero, Nat.mul_one] at h
    rw [h, Nat.mul_assoc, ← Nat.pow_add]
    congr 2
    omega
  · have hzero : e.toNat = 0 := by omega
    rw [hzero, Nat.pow_zero, Nat.mul_one] at h
    rw [← h, Nat.mul_assoc, ← Nat.pow_add]
    congr 2
    omega

/-- **An integer determines the size and the sign** of a double that it is equal to. -/
theorem size_of_integer? {x : Float} {n : Int} (h : integer? x = some n) :
    biased x ≠ 2047 ∧ n.natAbs * 2 ^ 1074 = size (biased x) (fraction x) ∧
      (n ≠ 0 → (signed x ↔ n < 0)) := by
  have hfinite : ∀ d : Decimal.Dyadic, classify x = .finite (signed x) d → -1074 ≤ d.exponent →
      n.natAbs * 2 ^ 1074 = d.mantissa * 2 ^ (d.exponent + 1074).toNat ∧
        (n ≠ 0 → (signed x ↔ n < 0)) := by
    intro d hclass hexponent
    rw [integer?, hclass] at h
    simp only [Nat.pow_eq, Option.ite_none_right_eq_some, Option.some.injEq] at h
    obtain ⟨hexact, hn⟩ := h
    have hsize := mul_of_div_mul hexponent hexact
    cases hsigned : signed x with
    | true =>
      rw [hsigned, if_pos rfl] at hn
      have habs : n.natAbs = d.mantissa * 2 ^ d.exponent.toNat / 2 ^ (-d.exponent).toNat := by
        omega
      exact ⟨habs ▸ hsize, fun hzero => iff_of_true rfl (by omega)⟩
    | false =>
      rw [hsigned, if_neg (by decide)] at hn
      have habs : n.natAbs = d.mantissa * 2 ^ d.exponent.toNat / 2 ^ (-d.exponent).toNat := by
        omega
      exact ⟨habs ▸ hsize, fun hzero => iff_of_false (by decide) (by omega)⟩
  have hclass := classify_eq x
  by_cases hspecial : biased x = 2047
  · rw [if_pos hspecial] at hclass
    split at hclass <;> simp [integer?, hclass] at h
  refine ⟨hspecial, ?_⟩
  rw [if_neg hspecial] at hclass
  by_cases hzero : biased x = 0
  · rw [if_pos hzero] at hclass
    rw [size, if_pos hzero]
    by_cases hfraction : fraction x = 0
    · rw [if_pos hfraction] at hclass
      obtain rfl : 0 = n := by simpa [integer?, hclass] using h
      refine ⟨?_, fun hne => absurd rfl hne⟩
      rw [hfraction, Int.natAbs_zero, Nat.zero_mul]
    · rw [if_neg hfraction] at hclass
      obtain ⟨hsize, hsign⟩ := hfinite _ hclass (Int.le_refl _)
      exact ⟨hsize.trans (Nat.mul_one _), hsign⟩
  · rw [if_neg hzero] at hclass
    obtain ⟨hsize, hsign⟩ := hfinite _ hclass (by dsimp only; omega)
    refine ⟨?_, hsign⟩
    have hexponent : ((biased x : Int) - 1075 + 1074).toNat = biased x - 1 := by omega
    rw [size, if_neg hzero, hsize, hexponent]
    rfl

/-- There are two doubles of no size. -/
theorem eq_zero_of_parts {x : Float} (hbiased : biased x = 0) (hfraction : fraction x = 0) :
    x = if signed x then -0 else 0 := by
  cases hsigned : signed x with
  | true =>
    exact eq_of_parts (hsigned.trans (by decide +kernel)) (hbiased.trans (by decide +kernel))
      (hfraction.trans (by decide +kernel))
  | false =>
    exact eq_of_parts (hsigned.trans (by decide +kernel)) (hbiased.trans (by decide +kernel))
      (hfraction.trans (by decide +kernel))

/-- **Doubles that are equal to one integer are equal.** -/
theorem beq_of_integer? {x y : Float} {n : Int} (hx : integer? x = some n)
    (hy : integer? y = some n) : x == y := by
  have hne : ∀ {z : Float}, integer? z = some n → z ≠ Float.nan := by
    rintro _ hz rfl
    exact (size_of_integer? hz).1 (by decide +kernel)
  refine Float.beq_iff_ne_nan_and_eq.2 ⟨hne hx, hne hy, ?_⟩
  obtain ⟨-, hsizex, hsignx⟩ := size_of_integer? hx
  obtain ⟨-, hsizey, hsigny⟩ := size_of_integer? hy
  obtain ⟨hbiased, hfraction⟩ := size_inj (fraction_lt x) (fraction_lt y) (hsizex.symm.trans hsizey)
  by_cases hzero : n = 0
  · -- the sign of a zero is not read off the integer
    rw [hzero, Int.natAbs_zero, Nat.zero_mul] at hsizex
    obtain ⟨hbx, hfx⟩ := size_inj (b := 0) (f := 0) (by decide) (fraction_lt x) hsizex
    rw [eq_zero_of_parts hbx.symm hfx.symm,
      eq_zero_of_parts (hbiased.symm.trans hbx.symm) (hfraction.symm.trans hfx.symm)]
    cases signed x <;> cases signed y <;> decide
  · refine .inl (eq_of_parts ?_ hbiased hfraction)
    rw [Bool.eq_iff_iff, hsignx hzero, hsigny hzero]

/-! ### Keys -/

/-- **What a value is as a key.** -/
inductive Key where
  /-- Null. -/
  | null
  /-- An integer, or what is equal to one. -/
  | integer (n : Int)
  /-- A double that is equal to no integer. -/
  | double (x : Float)
  /-- What is no number, by its label. -/
  | nan (label : Nat)
  /-- A string. -/
  | str (s : String)
  /-- A date. -/
  | date (d : Date)
  /-- A moment, in millionths of a second, and whether it has an offset. -/
  | moment (offset : Bool) (instant : Int)
  /-- A sequence of bytes. -/
  | bytes (bs : List UInt8)

/-- The key of a double. -/
def floatKey? (x : Float) : Option Key :=
  match integer? x with
  | some n => some (.integer n)
  | none => if x == x then some (.double x) else none

/-- **The key of a value.** Containers have none. -/
def key? : Value → Option Key
  | null => some .null
  | bool b => some (.integer (if b then 1 else 0))
  | int n => some (.integer n)
  | float x => floatKey? x
  | nan label => some (.nan label)
  | str s => some (.str s)
  | date d => some (.date d)
  | moment t => some (.moment t.offset.isSome (t.clock - t.offset.getD 0 * 60000000))
  | bytes bs => some (.bytes bs)
  | list _ | map _ | set _ | pair _ _ => none

theorem floatKey?_eq_some_iff {x : Float} {k : Key} :
    floatKey? x = some k ↔ (∃ n, integer? x = some n ∧ .integer n = k) ∨
      integer? x = none ∧ x == x ∧ .double x = k := by
  unfold floatKey?
  cases integer? x with
  | some n => simp
  | none => simp

/-- Doubles are compared by their keys. -/
theorem beq_iff_floatKey? {x y : Float} :
    x == y ↔ ∃ k, floatKey? x = some k ∧ floatKey? y = some k := by
  simp only [floatKey?_eq_some_iff]
  constructor
  · intro h
    obtain ⟨-, -, rfl | ⟨rfl, rfl⟩ | ⟨rfl, rfl⟩⟩ := Float.beq_iff_ne_nan_and_eq.1 h
    · cases hinteger : integer? x with
      | some n => exact ⟨.integer n, by simp⟩
      | none => exact ⟨.double x, by simp [h]⟩
    · exact ⟨.integer 0, .inl ⟨0, by decide +kernel, rfl⟩, .inl ⟨0, by decide +kernel, rfl⟩⟩
    · exact ⟨.integer 0, .inl ⟨0, by decide +kernel, rfl⟩, .inl ⟨0, by decide +kernel, rfl⟩⟩
  · rintro ⟨k, ⟨n, hx, rfl⟩ | ⟨-, hx, rfl⟩, ⟨m, hy, hk⟩ | ⟨-, -, hk⟩⟩
    · exact beq_of_integer? hx (Key.integer.inj hk ▸ hy)
    · exact nomatch hk
    · exact nomatch hk
    · exact Key.double.inj hk ▸ hx

theorem same_iff {s t : Moment} :
    s.same t ↔ s.offset.isSome = t.offset.isSome ∧
      s.clock - s.offset.getD 0 * 60000000 = t.clock - t.offset.getD 0 * 60000000 := by
  unfold Moment.same
  cases s.offset <;> cases t.offset <;> simp

/-- **Two values are the same key** if they have a key in common. -/
theorem sameKey_iff {v w : Value} : v.sameKey w ↔ ∃ k, v.key? = some k ∧ w.key? = some k := by
  suffices h : v.sameKey w ↔ ∃ k, w.key? = some k ∧ v.key? = some k from
    h.trans (exists_congr fun k => and_comm)
  cases v <;> cases w
  case float.float x y => exact beq_iff_floatKey?.trans (exists_congr fun k => and_comm)
  -- a double and what is an integer or like one
  case float.bool x b | float.int x n | bool.float b x | int.float n x =>
    simp only [sameKey, toInteger?, key?, floatKey?_eq_some_iff]
    cases integer? x <;> simp
  all_goals simp [sameKey, toInteger?, key?, floatKey?_eq_some_iff, same_iff]

theorem sameKey_comm {v w : Value} (h : v.sameKey w) : w.sameKey v := by
  obtain ⟨k, hv, hw⟩ := sameKey_iff.1 h
  exact sameKey_iff.2 ⟨k, hw, hv⟩

theorem sameKey_trans {u v w : Value} (h : u.sameKey v) (h' : v.sameKey w) : u.sameKey w := by
  obtain ⟨k, hu, hv⟩ := sameKey_iff.1 h
  obtain ⟨k', hv', hw⟩ := sameKey_iff.1 h'
  obtain rfl : k = k' := Option.some.inj (hv.symm.trans hv')
  exact sameKey_iff.2 ⟨k, hu, hw⟩

/-- An integer, a double and a truth value can be one key, and a double below the least normal one
is equal to no integer. -/
example : (int 1).sameKey (bool true) ∧ (float 1.0).sameKey (int 1) ∧
    (float (-0.0)).sameKey (int 0) ∧ integer? (Float.ofBits 1) = none := by
  decide +kernel

end ApiTypes.Value
