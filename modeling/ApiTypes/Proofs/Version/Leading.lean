import ApiTypes.Proofs.Text.Trimming
import ApiTypes.Proofs.Value.Entries
import ApiTypes.Value.Equal
import ApiTypes.Version
import Mathlib.Data.Nat.Digits.Defs

/-!
# The integer at the front of a version

A version field may be an integer or a string, and of a string only the integer at its front
counts. It is read by trimming, by looking for a sign, and by taking digits as long as there are
any. What comes of that is a small grammar (`ApiTypes.HasLeadingInteger`): white space, one sign
or none, digits, and then anything but a digit. A text has at most one such integer, and the
major version is that integer if there is one.

The digits may be of several scripts, and there may be zeros in front. But among all the ways to
write an integer there is the plain one (`ApiTypes.Text.ofInt`), which is read back as it was
(`ApiTypes.hasLeadingInteger_text`). So it does not matter to a description whether its version
is written with quotes around it or without.
-/

namespace ApiTypes

namespace Text

variable {c : Char} {t numeral rest : Text} {digits : List ℕ}

/-! ### Digits -/

theorem digitZeros_apart : ∀ z ∈ digitZeros, ∀ r ∈ blankRanges, z + 10 ≤ r.1 ∨ r.2 < z := by
  decide

/-- No digit is white space. -/
theorem not_isBlank_of_isDigit (h : isDigit c) : ¬isBlank c := by
  obtain ⟨value, hvalue⟩ := Option.isSome_iff_exists.1 h
  obtain ⟨z, hz, -⟩ := Option.map_eq_some_iff.1 hvalue
  have hrange := List.find?_some hz
  simp only [Bool.and_eq_true, decide_eq_true_eq] at hrange
  intro hblank
  obtain ⟨r, hr, hc⟩ := List.any_eq_true.1 hblank
  simp only [Bool.and_eq_true, decide_eq_true_eq] at hc
  have := digitZeros_apart z (List.mem_of_find?_eq_some hz) r hr
  omega

theorem isDigit_of_map_eq (h : numeral.map digitValue? = digits.map some) :
    ∀ c ∈ numeral, isDigit c := by
  intro c hc
  have hmem : digitValue? c ∈ digits.map some := h ▸ List.mem_map_of_mem hc
  obtain ⟨d, -, hd⟩ := List.mem_map.1 hmem
  rw [isDigit, ← hd, Option.isSome_some]

theorem exists_map_eq_of_isDigit (h : ∀ c ∈ numeral, isDigit c) :
    ∃ digits : List ℕ, numeral.map digitValue? = digits.map some := by
  refine ⟨numeral.map fun c => (digitValue? c).getD 0, ?_⟩
  rw [List.map_map]
  refine List.map_congr_left fun c hc => ?_
  obtain ⟨value, hvalue⟩ := Option.isSome_iff_exists.1 (h c hc)
  rw [Function.comp_apply, hvalue, Option.getD_some]

/-- The value of a numeral is that of its digits in base ten. -/
theorem digitsValue_eq (h : numeral.map digitValue? = digits.map some) :
    digitsValue numeral = Nat.ofDigits 10 digits.reverse := by
  calc digitsValue numeral
      = (numeral.map digitValue?).foldl (fun n d => 10 * n + d.getD 0) 0 := by
        rw [List.foldl_map, digitsValue]
    _ = digits.foldl (fun n d => d + 10 * n) 0 := by
        rw [h, List.foldl_map]
        simp only [Option.getD_some, Nat.add_comm]
    _ = Nat.ofDigits 10 digits.reverse := by
        rw [Nat.ofDigits_eq_foldr, List.foldr_reverse]
        rfl

/-- As many digits are taken as there are. -/
theorem takeWhile_isDigit_append (hnumeral : ∀ c ∈ numeral, isDigit c)
    (hrest : ∀ c ∈ rest.head?, ¬isDigit c) : (numeral ++ rest).takeWhile isDigit = numeral := by
  rw [List.takeWhile_append_of_pos hnumeral]
  cases rest with
  | nil => rw [List.takeWhile_nil, List.append_nil]
  | cons c rest => rw [List.takeWhile_cons_of_neg (hrest c rfl), List.append_nil]

theorem digitValue?_digitChar : ∀ d < 10, digitValue? d.digitChar = some d := by
  decide

/-- The digits of a numeral that is written plainly give its number back. -/
theorem exists_digits_ofNat (n : ℕ) : ∃ digits : List ℕ,
    (ofNat n).map digitValue? = digits.map some ∧ Nat.ofDigits 10 digits.reverse = n := by
  induction n using Nat.strongRecOn with
  | _ n ih =>
    rw [ofNat, Nat.toDigits_eq_if (by decide)]
    split
    · next hlt => exact ⟨[n], by simp [digitValue?_digitChar n hlt], by simp⟩
    · next hle =>
      -- the last digit, behind the numeral of a tenth
      obtain ⟨digits, hdigits, hvalue⟩ := ih (n / 10) (by omega)
      have hlast := digitValue?_digitChar (n % 10) (by omega)
      refine ⟨digits ++ [n % 10], ?_, ?_⟩
      · rw [List.map_append, ← ofNat, hdigits]
        simp [hlast]
      · rw [List.reverse_append, List.reverse_singleton, List.singleton_append,
          Nat.ofDigits_cons, hvalue]
        omega

theorem ofNat_ne_nil (n : ℕ) : ofNat n ≠ [] := by
  rw [ofNat, Nat.toDigits_eq_if (by decide)]
  split <;> simp

end Text

open Text

/-! ### The grammar -/

/-- The signs of a numeral, each with its factor; a sign may be missing. -/
def numeralSigns : List (Text × ℤ) := [([], 1), (['+'], 1), (['-'], -1)]

/-- **The integer at the front of a text**: behind white space and a sign, the value of all
digits up to the next character that is none. -/
inductive HasLeadingInteger : Text → ℤ → Prop
  /-- The parts of the text, one behind the other. -/
  | mk {blanks sign numeral rest : Text} {factor : ℤ} {digits : List ℕ} :
      (∀ c ∈ blanks, isBlank c) → (sign, factor) ∈ numeralSigns → numeral ≠ [] →
      numeral.map digitValue? = digits.map some → (∀ c ∈ rest.head?, ¬isDigit c) →
      HasLeadingInteger (blanks ++ (sign ++ (numeral ++ rest)))
        (factor * (Nat.ofDigits 10 digits.reverse : ℕ))

variable {t : Text} {n : ℤ}

/-- The value of the digits at the front of a text, behind a sign with some factor. -/
def numeral? (factor : ℤ) (t : Text) : Option ℤ :=
  if (t.takeWhile isDigit).isEmpty then none else some (factor * digitsValue (t.takeWhile isDigit))

theorem numeral?_eq_some_iff {factor : ℤ} : numeral? factor t = some n ↔
    t.takeWhile isDigit ≠ [] ∧ factor * digitsValue (t.takeWhile isDigit) = n := by
  rw [numeral?]
  cases t.takeWhile isDigit <;> simp

theorem leadingInteger?_eq (t : Text) : leadingInteger? t = match trimStart t with
    | '-' :: rest => numeral? (-1) rest
    | '+' :: rest => numeral? 1 rest
    | rest => numeral? 1 rest := rfl

/-- What is read, in one line for all signs. -/
theorem leadingInteger?_eq_some : leadingInteger? t = some n ↔
    ∃ sign factor rest, (sign, factor) ∈ numeralSigns ∧ trimStart t = sign ++ rest ∧
      numeral? factor rest = some n := by
  simp only [leadingInteger?_eq, numeralSigns, List.mem_cons, List.not_mem_nil, or_false,
    Prod.mk.injEq]
  constructor
  · intro h
    split at h
    · next rest hrest => exact ⟨['-'], -1, rest, by simp, hrest, h⟩
    · next rest hrest => exact ⟨['+'], 1, rest, by simp, hrest, h⟩
    · exact ⟨[], 1, trimStart t, by simp, rfl, h⟩
  · rintro ⟨sign, factor, rest, ⟨rfl, rfl⟩ | ⟨rfl, rfl⟩ | ⟨rfl, rfl⟩, htrim, h⟩
    · -- without a sign the text begins with a digit
      have hne := (numeral?_eq_some_iff.1 h).1
      rw [List.nil_append] at htrim
      rw [htrim]
      split
      · exact absurd (List.takeWhile_cons_of_neg (by decide)) hne
      · exact absurd (List.takeWhile_cons_of_neg (by decide)) hne
      · exact h
    · rw [htrim]
      exact h
    · rw [htrim]
      exact h

theorem not_isBlank_head {sign numeral : Text} {factor : ℤ}
    (hsign : (sign, factor) ∈ numeralSigns) (hne : numeral ≠ [])
    (hdigits : ∀ c ∈ numeral, isDigit c) (rest : Text) :
    ∀ c ∈ (sign ++ (numeral ++ rest)).head?, ¬isBlank c := by
  simp only [numeralSigns, List.mem_cons, List.not_mem_nil, or_false, Prod.mk.injEq] at hsign
  intro c hc
  rcases hsign with ⟨rfl, -⟩ | ⟨rfl, -⟩ | ⟨rfl, -⟩
  · obtain ⟨d, numeral, rfl⟩ := List.exists_cons_of_ne_nil hne
    obtain rfl : d = c := by simpa using hc
    exact not_isBlank_of_isDigit (hdigits d List.mem_cons_self)
  · obtain rfl : '+' = c := by simpa using hc
    decide
  · obtain rfl : '-' = c := by simpa using hc
    decide

/-- **The integer at the front of a text is read**, and nothing else is. -/
theorem leadingInteger?_eq_some_iff : leadingInteger? t = some n ↔ HasLeadingInteger t n := by
  rw [leadingInteger?_eq_some]
  constructor
  · rintro ⟨sign, factor, rest, hsign, htrim, h⟩
    obtain ⟨hne, rfl⟩ := numeral?_eq_some_iff.1 h
    have hdigits : ∀ c ∈ rest.takeWhile isDigit, isDigit c := fun c hc =>
      List.mem_takeWhile_imp hc
    obtain ⟨digits, hmap⟩ := exists_map_eq_of_isDigit hdigits
    have ht : t = t.takeWhile isBlank ++
        (sign ++ (rest.takeWhile isDigit ++ rest.dropWhile isDigit)) := by
      rw [List.takeWhile_append_dropWhile, ← htrim, trimStart, List.takeWhile_append_dropWhile]
    rw [ht, digitsValue_eq hmap]
    exact .mk (fun c hc => List.mem_takeWhile_imp hc) hsign hne hmap
      (not_head_dropWhile isDigit rest)
  · intro h
    cases h with
    | @mk blanks sign numeral rest factor digits hblanks hsign hne hmap hrest =>
      have hdigits := isDigit_of_map_eq hmap
      have hhead := not_isBlank_head hsign hne hdigits rest
      have htake := takeWhile_isDigit_append hdigits hrest
      refine ⟨sign, factor, numeral ++ rest, hsign, ?_, ?_⟩
      · rw [trimStart_append hblanks, trimStart_eq_self hhead]
      · rw [numeral?_eq_some_iff, htake]
        exact ⟨hne, by rw [digitsValue_eq hmap]⟩

/-! ### Versions with quotes -/

/-- An integer that is written plainly is the one at the front. -/
theorem hasLeadingInteger_text {blanks rest : Text} (hblanks : ∀ c ∈ blanks, isBlank c)
    (hrest : ∀ c ∈ rest.head?, ¬isDigit c) (n : ℤ) :
    HasLeadingInteger (blanks ++ ((Value.int n).text ++ rest)) n := by
  obtain ⟨digits, hmap, hvalue⟩ := exists_digits_ofNat n.natAbs
  have htext : (Value.int n).text = Text.ofInt n := rfl
  rw [htext, Text.ofInt]
  split
  · next hneg =>
    have hsign : (['-'], -1) ∈ numeralSigns := by simp [numeralSigns]
    have hn : -1 * (n.natAbs : ℤ) = n := by omega
    have h := HasLeadingInteger.mk hblanks hsign (ofNat_ne_nil n.natAbs) hmap hrest
    rwa [hvalue, hn] at h
  · next hpos =>
    have hsign : ([], 1) ∈ numeralSigns := by simp [numeralSigns]
    have hn : 1 * (n.natAbs : ℤ) = n := by omega
    have h := HasLeadingInteger.mk hblanks hsign (ofNat_ne_nil n.natAbs) hmap hrest
    rwa [hvalue, hn] at h

/-- A version with quotes around it: an integer, with some text in front of it and behind it. -/
def quotedVersion (blanks : Text) (n : ℤ) (rest : Text) : Value :=
  .str (String.ofList (blanks ++ ((Value.int n).text ++ rest)))

theorem majorVersion_str_eq_some_iff {s : String} :
    majorVersion (.str s) = some n ↔ HasLeadingInteger s.toList n := leadingInteger?_eq_some_iff

theorem majorVersion_quotedVersion {blanks rest : Text} (hblanks : ∀ c ∈ blanks, isBlank c)
    (hrest : ∀ c ∈ rest.head?, ¬isDigit c) (n : ℤ) :
    majorVersion (quotedVersion blanks n rest) = some n := by
  rw [quotedVersion, majorVersion_str_eq_some_iff, String.toList_ofList]
  exact hasLeadingInteger_text hblanks hrest n

/-- Of the version fields only the major versions count. -/
theorem dialect_insert_congr {v w : Value} (h : majorVersion v = majorVersion w) (es : Entries)
    (name : String) : Description.dialect (.map (es.insert (.str name) v)) =
      Description.dialect (.map (es.insert (.str name) w)) := by
  have hfield : ∀ field, (Entries.field? (es.insert (.str name) v) field).bind majorVersion =
      (Entries.field? (es.insert (.str name) w) field).bind majorVersion := by
    intro field
    rw [Entries.field?_insert, Entries.field?_insert]
    split
    · exact h
    · rfl
  have hdialect : Description.dialect? (es.insert (.str name) v) =
      Description.dialect? (es.insert (.str name) w) := by
    simp only [Description.dialect?, hfield]
  simp only [Description.dialect, Description.entries, bind, Except.bind, hdialect]

/-- **The major version of a string** is the integer at its front, and there is none if there is
no such integer. An integer that is written plainly is read back from behind any white space and
from in front of anything but a digit, so that a description has the same dialect whether its
version is such a string or the integer. -/
theorem majorVersion_leading :
    (∀ (s : String) (n : ℤ), majorVersion (.str s) = some n ↔ HasLeadingInteger s.toList n) ∧
      (∀ s : String, majorVersion (.str s) = none ↔ ∀ n, ¬HasLeadingInteger s.toList n) ∧
      ∀ (n : ℤ) (blanks rest : Text), (∀ c ∈ blanks, isBlank c) →
        (∀ c ∈ rest.head?, ¬isDigit c) →
        majorVersion (quotedVersion blanks n rest) = some n ∧ majorVersion (.int n) = some n ∧
          ∀ (es : Entries) (name : String),
            Description.dialect (.map (es.insert (.str name) (quotedVersion blanks n rest))) =
              Description.dialect (.map (es.insert (.str name) (.int n))) := by
  refine ⟨fun s n => majorVersion_str_eq_some_iff, fun s => ?_, ?_⟩
  · rw [Option.eq_none_iff_forall_ne_some]
    simp only [ne_eq, majorVersion_str_eq_some_iff]
  · intro n blanks rest hblanks hrest
    have hquoted := majorVersion_quotedVersion hblanks hrest n
    exact ⟨hquoted, rfl, dialect_insert_congr hquoted⟩

/-- The sign belongs to the integer, and the point ends it. -/
theorem majorVersion_leading_negative :
    (∀ c ∈ ['\u2003', ' '], isBlank c) ∧ (∀ c ∈ ".\u0663".toList.head?, ¬isDigit c) ∧
      majorVersion (.str "\u2003 -30.\u0663") = some (-30) := by
  have hblanks : ∀ c ∈ ['\u2003', ' '], isBlank c := by decide
  have hrest : ∀ c ∈ ".\u0663".toList.head?, ¬isDigit c := by
    intro c hc
    obtain rfl : '.' = c := by simpa using hc
    decide
  have hversion : quotedVersion ['\u2003', ' '] (-30) ".\u0663".toList =
      .str "\u2003 -30.\u0663" := by
    decide +kernel
  refine ⟨hblanks, hrest, ?_⟩
  rw [← hversion]
  exact (majorVersion_leading.2.2 (-30) _ _ hblanks hrest).1

/-- There may be zeros in front, and digits of several scripts. -/
example : majorVersion (.str "+0\u0663\uff10.1") = some 30 := by
  decide

end ApiTypes
